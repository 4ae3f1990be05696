import Stepper.Asm.Source
import Stepper.Proofs.Asm.Comment
import Stepper.Proofs.Unicode.Code

/-! Stops: the blanks, the comma, the brackets and the marks of comments. They are what a line of a program
is parted at. No stop is part of a name, a number or a word of any script, and none has a letter case. -/

namespace Stepper.Unicode

open Numeral Asm

def isStop (c : Char) : Bool :=
  isBlank c || c == ',' || c == '[' || c == ']' || c == '/' || c == '*' || c == ';'

def Stopless (t : Text) : Prop := ∀ c ∈ t, isStop c = false

def stopCodes : List Nat :=
  blankTable.flatMap (fun r => List.range' r.1 (r.2 + 1 - r.1)) ++ [0x2C, 0x5B, 0x5D, 0x2F, 0x2A, 0x3B]

theorem toNat_mem_stopCodes {c : Char} (h : isStop c = true) : c.toNat ∈ stopCodes := by
  simp only [isStop, Bool.or_eq_true, beq_iff_eq] at h
  rcases h with (((((h | rfl) | rfl) | rfl) | rfl) | rfl) | rfl
  · obtain ⟨r, hr, h1, h2⟩ := (inTable_iff _ _).1 h
    refine List.mem_append_left _ (List.mem_flatMap.2 ⟨r, hr, ?_⟩)
    rw [List.mem_range'_1]
    omega
  all_goals decide

/-- What holds of every stop by its code holds of the stop. -/
theorem of_isStop {P : Char → Prop} (hP : ∀ n ∈ stopCodes, P (Char.ofNat n)) {c : Char} (h : isStop c = true) :
    P c :=
  of_code hP (toNat_mem_stopCodes h)

theorem isStop_space : isStop ' ' = true := by decide

theorem isStop_comma : isStop ',' = true := by decide

theorem isStop_of_isBlank {c : Char} (h : isBlank c = true) : isStop c = true := by
  simp [isStop, h]

theorem Stopless.solid {t : Text} (h : Stopless t) : Text.Solid t := by
  intro c hc
  have := h c hc
  simp only [isStop, Bool.or_eq_false_iff] at this
  exact this.1.1.1.1.1.1

theorem Stopless.unmarked {t : Text} (h : Stopless t) : Unmarked t := by
  intro c hc
  have := h c hc
  simp only [isStop, Bool.or_eq_false_iff] at this
  simp [isMark, this.2, this.1.2, this.1.1.2]

theorem stopless_nil : Stopless [] := by simp [Stopless]

theorem Stopless.append {a b : Text} (ha : Stopless a) (hb : Stopless b) : Stopless (a ++ b) := by
  intro c hc
  rcases List.mem_append.1 hc with h | h
  · exact ha c h
  · exact hb c h

theorem isStop_false_of {P : Char → Bool} (hP : ∀ n ∈ stopCodes, P (Char.ofNat n) = false) {c : Char}
    (h : P c = true) : isStop c = false := by
  by_contra hs
  have := of_isStop (P := fun c => P c = false) hP (by simpa using hs)
  simp [this] at h

theorem isStop_of_isDigit {c : Char} (h : isDigit c = true) : isStop c = false :=
  isStop_false_of (by decide) h

theorem isStop_of_isHexDigit {c : Char} (h : isHexDigit c = true) : isStop c = false :=
  isStop_false_of (by decide) h

theorem isStop_of_isNameChar {c : Char} (h : isNameChar c = true) : isStop c = false :=
  isStop_false_of (by decide) h

theorem isWord_of_isStop {c : Char} (h : isStop c = true) : isWord c = false :=
  of_isStop (P := fun c => isWord c = false) (by decide +kernel) h

theorem isCased_of_isStop {c : Char} (h : isStop c = true) : isCased c = false :=
  of_isStop (P := fun c => isCased c = false) (by decide +kernel) h

theorem isCaseIgnorable_of_isStop {c : Char} (h : isStop c = true) : isCaseIgnorable c = false :=
  of_isStop (P := fun c => isCaseIgnorable c = false) (by decide +kernel) h

theorem lowerChar_of_isStop {c : Char} (h : isStop c = true) : lowerChar c = [c] :=
  of_isStop (P := fun c => lowerChar c = [c]) (by decide +kernel) h

end Stepper.Unicode
