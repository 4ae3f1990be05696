import Stepper.Proofs.Asm.Spelling

/-! Words that are ASCII letters in upper case. Besides the ASCII letters only ten characters can be part of
such a word, and none of them has another lower case; so lower case does not change the upper case of
the word. -/

namespace Stepper.Unicode

/-- The characters beyond ASCII whose upper case is made of ASCII letters: the sharp s, the dotless i, the
long s and the ligatures. -/
def letterCodes : List Nat :=
  [0xDF, 0x131, 0x17F, 0xFB00, 0xFB01, 0xFB02, 0xFB03, 0xFB04, 0xFB05, 0xFB06]

/-- The codes that a word of letters may have. -/
def plainCodes : List Nat :=
  List.range 128 ++ letterCodes

theorem mem_plainCodes {n : Nat} : n ∈ plainCodes ↔ n < 128 ∨ n ∈ letterCodes := by
  simp [plainCodes]

/-- What holds of every such code holds of the character. -/
theorem of_plainCodes {P : Char → Prop} (hP : ∀ n ∈ plainCodes, P (Char.ofNat n)) {c : Char}
    (h : c.toNat ∈ plainCodes) : P c :=
  of_code hP h

theorem moved_of_holds {r : CaseRun} (hr : r ∈ upperRuns) {n : Nat} (h : r.holds n = true) :
    (r.move n).isValidChar ∧ (r.move n ∈ plainCodes → n ∈ letterCodes) := by
  -- a run stays away from the surrogates, and reaches such a code only from one of the ten characters
  have hvalid : ∀ r ∈ upperRuns, 0 ≤ r.first + r.shift ∧
      (r.last + r.shift < 0xD800 ∨ 0xDFFF < r.first + r.shift ∧ r.last + r.shift < 0x110000) := by
    decide +kernel
  have hascii : ∀ r ∈ upperRuns, (r.first : Int) + r.shift < 128 → r.first = r.last ∧ r.first ∈ letterCodes := by
    decide +kernel
  have hletter : ∀ r ∈ upperRuns, ∀ k ∈ letterCodes, ¬ (r.first + r.shift ≤ k ∧ (k : Int) ≤ r.last + r.shift) := by
    decide +kernel
  simp only [CaseRun.holds, Bool.and_eq_true, decide_eq_true_eq] at h
  obtain ⟨hpos, hrange⟩ := hvalid r hr
  have hmove : ((r.move n : Nat) : Int) = n + r.shift := by
    simp only [CaseRun.move]
    omega
  refine ⟨?_, fun hmem => ?_⟩
  · simp only [Nat.isValidChar]
    omega
  · rcases mem_plainCodes.1 hmem with hm | hm
    · obtain ⟨heq, hin⟩ := hascii r hr (by omega)
      have hn : n = r.first := by omega
      rw [hn]
      exact hin
    · exact absurd ⟨by omega, by omega⟩ (hletter r hr _ hm)

/-- A character whose upper case has only such codes has one itself. -/
theorem toNat_mem_of_upperChar {c : Char} (h : ∀ d ∈ upperChar c, d.toNat ∈ plainCodes) : c.toNat ∈ plainCodes := by
  have hexpand : ∀ e ∈ upperExpansions, (∀ k ∈ e.2, (Char.ofNat k).toNat ∈ plainCodes) → e.1 ∈ letterCodes := by
    simp only [mem_plainCodes]
    decide +kernel
  unfold upperChar at h
  split at h
  · next hlt => exact mem_plainCodes.2 (.inl hlt)
  · split at h
    · next e he =>
      have hmem := List.mem_of_find?_eq_some he
      have hcode : e.1 = c.toNat := by simpa using List.find?_some he
      refine mem_plainCodes.2 (.inr ?_)
      rw [← hcode]
      exact hexpand e hmem fun k hk => h _ (List.mem_map_of_mem hk)
    · have hm := h _ (List.mem_singleton_self _)
      rw [moveCase] at hm
      split at hm
      · next r hr =>
        obtain ⟨hv, hin⟩ := moved_of_holds (List.mem_of_find?_eq_some hr) (by simpa using List.find?_some hr)
        rw [toNat_ofNat_of_valid hv] at hm
        exact mem_plainCodes.2 (.inr (hin hm))
      · rwa [Char.ofNat_toNat] at hm

/-- A word that is ASCII letters once it is twice in upper case. -/
def Lettered (w : Text) : Prop := ∀ c ∈ upper (upper w), c.isUpper = true

theorem upper_append (a b : Text) : upper (a ++ b) = upper a ++ upper b := by
  simp [upper]

theorem Lettered.of_cons {c : Char} {w : Text} (h : Lettered (c :: w)) :
    (∀ d ∈ upper (upperChar c), d.isUpper = true) ∧ Lettered w := by
  have hsplit : upper (upper (c :: w)) = upper (upperChar c) ++ upper (upper w) := by
    rw [← upper_append]
    rfl
  rw [Lettered, hsplit] at h
  exact ⟨fun d hd => h d (List.mem_append_left _ hd), fun d hd => h d (List.mem_append_right _ hd)⟩

theorem toNat_mem_of_isUpper {c : Char} (h : ∀ d ∈ upper (upperChar c), d.isUpper = true) : c.toNat ∈ plainCodes := by
  apply toNat_mem_of_upperChar
  intro d hd
  apply toNat_mem_of_upperChar
  intro e he
  exact mem_plainCodes.2 (.inl (ascii_of_isUpper (h e (List.mem_flatMap.2 ⟨d, hd, he⟩))))

theorem Lettered.toNat_mem {w : Text} (h : Lettered w) : ∀ c ∈ w, c.toNat ∈ plainCodes := by
  induction w with
  | nil => simp
  | cons c w ih =>
    obtain ⟨hc, hw⟩ := h.of_cons
    intro d hd
    rcases List.mem_cons.1 hd with rfl | hd
    · exact toNat_mem_of_isUpper hc
    · exact ih hw d hd

theorem lowerAfter_of_plain {w : Text} (h : ∀ c ∈ w, c.toNat ∈ plainCodes) (seen : Text) :
    lowerAfter seen w = w.flatMap lowerChar := by
  induction w generalizing seen with
  | nil => rfl
  | cons c w ih =>
    have hsigma : ¬ c.toNat = 0x3A3 := by
      intro h0
      have := h c (by simp)
      rw [h0] at this
      exact absurd this (by decide)
    simp [lowerAfter, hsigma, ih fun d hd => h d (by simp [hd])]

theorem Lettered.upper_lower {w : Text} (h : Lettered w) : upper (lower w) = upper w := by
  have hchar : ∀ n ∈ plainCodes, upper (lowerChar (Char.ofNat n)) = upperChar (Char.ofNat n) := by decide +kernel
  have hw := h.toNat_mem
  clear h
  rw [lower, lowerAfter_of_plain hw]
  induction w with
  | nil => rfl
  | cons c w ih =>
    have hc := of_plainCodes (P := fun c => upper (lowerChar c) = upperChar c) hchar (hw c (by simp))
    rw [List.flatMap_cons, upper_append, ih fun d hd => hw d (by simp [hd]), hc]
    rfl

/-- Upper case has no upper case of its own. -/
theorem Lettered.upper_upper {w : Text} (h : Lettered w) : upper (upper w) = upper w := by
  have hchar : ∀ n ∈ plainCodes, upper (upperChar (Char.ofNat n)) = upperChar (Char.ofNat n) := by decide +kernel
  have hw := h.toNat_mem
  clear h
  induction w with
  | nil => rfl
  | cons c w ih =>
    have hc := of_plainCodes (P := fun c => upper (upperChar c) = upperChar c) hchar (hw c (by simp))
    have hcons : upper (c :: w) = upperChar c ++ upper w := rfl
    rw [hcons, upper_append, hc, ih fun d hd => hw d (by simp [hd])]

theorem Lettered.not_isDigit_lower {w : Text} (h : Lettered w) : ∀ d ∈ lower w, isDigit d = false := by
  have hchar : ∀ n ∈ plainCodes, (∀ d ∈ upper (upperChar (Char.ofNat n)), d.isUpper = true) →
      ∀ d ∈ lowerChar (Char.ofNat n), isDigit d = false := by
    decide +kernel
  rw [lower, lowerAfter_of_plain h.toNat_mem]
  induction w with
  | nil => simp
  | cons c w ih =>
    obtain ⟨hc, hw⟩ := h.of_cons
    intro d hd
    rw [List.flatMap_cons] at hd
    rcases List.mem_append.1 hd with hd | hd
    · exact of_plainCodes (P := fun c => (∀ d ∈ upper (upperChar c), d.isUpper = true) →
        ∀ d ∈ lowerChar c, isDigit d = false) hchar (toNat_mem_of_isUpper hc) hc d hd
    · exact ih hw d hd

theorem Lettered.last_ne_comma {w : Text} (h : Lettered w) : w.getLast? ≠ some ',' := by
  intro hlast
  obtain ⟨front, rfl⟩ := List.getLast?_eq_some_iff.1 hlast
  have hcomma : upper [','] = [','] := by decide
  have hmem : ',' ∈ upper (upper (front ++ [','])) := by
    rw [upper_append, hcomma, upper_append, hcomma]
    simp
  exact absurd (h ',' hmem) (by decide)

end Stepper.Unicode
