import Mathlib.Tactic.SplitIfs
import Stepper.Numeral.Basic

/-! The digits of a number in any base, and what they are worth. Read back digit by digit they are worth the number. -/

namespace Stepper.Numeral

theorem leadingDigits_append {digit? : Char → Option Nat} {a : Text} (ha : ∀ c ∈ a, (digit? c).isSome = true)
    (b : Text) : leadingDigits digit? (a ++ b) = leadingDigits digit? a ++ leadingDigits digit? b := by
  induction a with
  | nil => rfl
  | cons c a ih =>
    obtain ⟨d, hd⟩ := Option.isSome_iff_exists.1 (ha c (by simp))
    simp [leadingDigits, hd, ih fun e he => ha e (by simp [he])]

/-- One reader finds in changed characters what another finds in the characters. -/
theorem leadingDigits_map {digit? digit?' : Char → Option Nat} {f : Char → Char} {t : Text}
    (h : ∀ c ∈ t, digit? (f c) = digit?' c) : leadingDigits digit? (t.map f) = leadingDigits digit?' t := by
  induction t with
  | nil => rfl
  | cons c t ih => simp [leadingDigits, h c (by simp), ih fun d hd => h d (by simp [hd])]

theorem leadingDigits_eq_map {digit? : Char → Option Nat} {value : Char → Nat} {t : Text}
    (h : ∀ c ∈ t, digit? c = some (value c)) : leadingDigits digit? t = t.map value := by
  induction t with
  | nil => rfl
  | cons c t ih => simp [leadingDigits, h c (by simp), ih fun d hd => h d (by simp [hd])]

theorem ofDigits_append (base : Nat) (a : List Nat) (d : Nat) :
    ofDigits base (a ++ [d]) = ofDigits base a * base + d := by
  simp [ofDigits]

/-- Zeros in front of a text change nothing of its value. -/
theorem ofDigits_zeros {digit? : Char → Option Nat} (hzero : digit? '0' = some 0) (base k : Nat) (t : Text) :
    ofDigits base (leadingDigits digit? (List.replicate k '0' ++ t)) = ofDigits base (leadingDigits digit? t) := by
  induction k with
  | zero => rfl
  | succ k ih =>
    rw [List.replicate_succ, List.cons_append, leadingDigits, hzero, ← ih]
    simp [ofDigits]

section

variable {base : Nat} (hbase : 1 < base)

include hbase

theorem exists_of_mem_toDigits {n : Nat} {c : Char} (h : c ∈ Nat.toDigits base n) :
    ∃ d < base, c = Nat.digitChar d := by
  induction n using Nat.strongRecOn with
  | ind n ih =>
    rw [Nat.toDigits_eq_if hbase] at h
    split_ifs at h with hn
    · exact ⟨n, hn, by simpa using h⟩
    · rcases List.mem_append.1 h with h | h
      · exact ih (n / base) (Nat.div_lt_self (by omega) hbase) h
      · exact ⟨n % base, Nat.mod_lt _ (by omega), by simpa using h⟩

/-- A reader that knows the digits of a base reads every number in it. -/
theorem ofDigits_toDigits {digit? : Char → Option Nat} (hdigit : ∀ d < base, digit? (Nat.digitChar d) = some d)
    (n : Nat) : ofDigits base (leadingDigits digit? (Nat.toDigits base n)) = n := by
  have hall : ∀ m, ∀ c ∈ Nat.toDigits base m, (digit? c).isSome = true := by
    intro m c hc
    obtain ⟨d, hd, rfl⟩ := exists_of_mem_toDigits hbase hc
    rw [hdigit d hd]
    rfl
  induction n using Nat.strongRecOn with
  | ind n ih =>
    rw [Nat.toDigits_eq_if hbase]
    split_ifs with hn
    · simp [leadingDigits, hdigit n hn, ofDigits]
    · have hlast : leadingDigits digit? [Nat.digitChar (n % base)] = [n % base] := by
        simp [leadingDigits, hdigit (n % base) (Nat.mod_lt _ (by omega))]
      rw [leadingDigits_append (hall _), hlast, ofDigits_append, ih (n / base) (Nat.div_lt_self (by omega) hbase)]
      exact Nat.div_add_mod' n base

end

/-! ### Decimal numbers -/

theorem isDigit_digitChar : ∀ d < 10, (Nat.digitChar d).isDigit = true := by decide

theorem isDigit_of_mem_natDecimal {n : Nat} {c : Char} (h : c ∈ natDecimal n) : c.isDigit = true := by
  obtain ⟨d, hd, rfl⟩ := exists_of_mem_toDigits (by decide) h
  exact isDigit_digitChar d hd

theorem natDecimal_ne_nil (n : Nat) : natDecimal n ≠ [] := Nat.toDigits_ne_nil

/-- The decimal digits of a number, each by its place behind the zero. -/
theorem ofDigits_natDecimal (n : Nat) : ofDigits 10 ((natDecimal n).map fun c => c.toNat - 48) = n := by
  have hvalue : ∀ d < 10, (Nat.digitChar d).toNat - 48 = d := by decide
  have hplaces : leadingDigits (fun c => some (c.toNat - 48)) (natDecimal n) =
      (natDecimal n).map fun c => c.toNat - 48 := leadingDigits_eq_map fun _ _ => rfl
  rw [← hplaces]
  exact ofDigits_toDigits (by decide) (fun d hd => congrArg some (hvalue d hd)) n

theorem decimal_cases (v : Int) :
    (v = -(v.natAbs : Int) ∧ decimal v = '-' :: natDecimal v.natAbs) ∨
    (v = (v.natAbs : Int) ∧ decimal v = natDecimal v.natAbs) := by
  unfold decimal signed
  split
  · exact .inl ⟨by omega, rfl⟩
  · exact .inr ⟨by omega, rfl⟩

/-- Only zero has a zero in front. -/
theorem head?_natDecimal {n : Nat} (hn : 0 < n) : (natDecimal n).head? ≠ some '0' := by
  have hdigit : ∀ d < 10, 0 < d → Nat.digitChar d ≠ '0' := by decide
  induction n using Nat.strongRecOn with
  | ind n ih =>
    rw [natDecimal, Nat.toDigits_eq_if (by decide)]
    split_ifs with hlt
    · simpa using hdigit n hlt hn
    · have hfront := ih (n / 10) (by omega) (by omega)
      obtain ⟨c, t, hct⟩ := List.exists_cons_of_ne_nil (natDecimal_ne_nil (n / 10))
      change (natDecimal (n / 10) ++ _).head? ≠ some '0'
      rw [hct] at hfront ⊢
      exact hfront

end Stepper.Numeral
