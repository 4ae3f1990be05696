import Mathlib.Tactic.Positivity
import Stepper.Proofs.Numeral.Hex
import Stepper.Proofs.Text.Piecewise

/-! The three changes of spelling that go through a line as a whole work piece by piece: lower case, the other
names of registers, and addresses in the place of labels. -/

namespace Stepper.Unicode

open Text

/-! ### Lower case -/

theorem nextIsCased_append {c : Char} (hc : isStop c = true) (x y : Text) :
    nextIsCased (x ++ c :: y) = nextIsCased x := by
  induction x with
  | nil => simp [nextIsCased, isCaseIgnorable_of_isStop hc, isCased_of_isStop hc]
  | cons d x ih =>
    unfold nextIsCased at ih ⊢
    by_cases hd : isCaseIgnorable d = true
    · simpa [hd] using ih
    · simp [hd]

theorem lowerAfter_append_seen {c : Char} (hc : isStop c = true) (seen before t : Text) :
    lowerAfter (seen ++ c :: before) t = lowerAfter seen t := by
  induction t generalizing seen with
  | nil => rfl
  | cons d t ih =>
    rw [lowerAfter, lowerAfter, nextIsCased_append hc, ← List.cons_append, ih]

theorem lowerAfter_append_stop {c : Char} (hc : isStop c = true) (seen a b : Text) :
    lowerAfter seen (a ++ c :: b) = lowerAfter seen a ++ c :: lower b := by
  induction a generalizing seen with
  | nil =>
    have hsigma : ¬ c.toNat = 0x3A3 := by
      intro h
      have := toNat_mem_stopCodes hc
      rw [h] at this
      exact absurd this (by decide)
    have := lowerAfter_append_seen hc [] seen b
    simp only [List.nil_append] at this
    simp [lowerAfter, hsigma, lowerChar_of_isStop hc, this, lower]
  | cons d a ih =>
    rw [List.cons_append, lowerAfter, lowerAfter, nextIsCased_append hc, ih, List.append_assoc]

theorem moveCase_not_stop {n : Nat} (h : ∃ r ∈ lowerRuns, r.holds n = true) : moveCase lowerRuns n ∉ stopCodes := by
  obtain ⟨r, hr, hn⟩ := h
  cases hf : lowerRuns.find? (·.holds n) with
  | none => exact absurd hn (by simpa using List.find?_eq_none.1 hf r hr)
  | some s =>
    -- no stop lies where a run of the table moves its characters to
    have hdisjoint : ∀ s ∈ lowerRuns, ∀ k ∈ stopCodes, ¬ (s.first + s.shift ≤ k ∧ (k : Int) ≤ s.last + s.shift) := by
      decide +kernel
    have hs := List.mem_of_find?_eq_some hf
    have hh := List.find?_some hf
    simp only [CaseRun.holds, Bool.and_eq_true, decide_eq_true_eq] at hh
    intro hmem
    rw [moveCase, hf] at hmem
    refine hdisjoint s hs _ hmem ?_
    simp only [CaseRun.move] at hmem ⊢
    by_cases hneg : (n : Int) + s.shift < 0
    · rw [Int.toNat_of_nonpos (by omega)] at hmem
      exact absurd hmem (by decide)
    · omega

theorem isStop_ofNat {n : Nat} (h : n ∉ stopCodes) : isStop (Char.ofNat n) = false := by
  by_contra hs
  have hmem := toNat_mem_stopCodes (by simpa using hs)
  by_cases hv : n.isValidChar
  · exact h (toNat_ofNat_of_valid hv ▸ hmem)
  · rw [toNat_ofNat_of_not_valid hv] at hmem
    exact absurd hmem (by decide)

theorem lowerChar_stopless {c : Char} (hc : isStop c = false) : lowerChar c ≠ [] ∧ Stopless (lowerChar c) := by
  have hascii : ∀ n < 128, isStop (Char.ofNat n) = false → isStop (Char.ofNat n).toLower = false := by decide +kernel
  unfold lowerChar
  split
  · next hlt =>
    have hlower := of_ascii (P := fun c => isStop c = false → isStop c.toLower = false) hascii hlt hc
    exact ⟨by simp, by simpa [Stopless] using hlower⟩
  · split
    · exact ⟨by simp, by simp only [Stopless, List.forall_mem_cons]; exact ⟨by decide, by decide, by simp⟩⟩
    · refine ⟨by simp, ?_⟩
      simp only [Stopless, List.mem_singleton, forall_eq]
      by_cases h : ∃ r ∈ lowerRuns, r.holds c.toNat = true
      · exact isStop_ofNat (moveCase_not_stop h)
      · have : moveCase lowerRuns c.toNat = c.toNat := by
          rw [moveCase, List.find?_eq_none.2 fun r hr => by simpa using fun hh => h ⟨r, hr, hh⟩]
        rw [this, Char.ofNat_toNat]
        exact hc

theorem lowerAfter_stopless {t : Text} (ht : Stopless t) (seen : Text) : Stopless (lowerAfter seen t) := by
  induction t generalizing seen with
  | nil => exact stopless_nil
  | cons c t ih =>
    rw [lowerAfter]
    refine Stopless.append ?_ (ih (fun d hd => ht d (by simp [hd])) _)
    split
    · simp only [Stopless, List.mem_singleton, forall_eq]
      decide
    · exact (lowerChar_stopless (ht c (by simp))).2

theorem lowerAfter_ne_nil {t : Text} (ne : t ≠ []) (ht : Stopless t) (seen : Text) : lowerAfter seen t ≠ [] := by
  cases t with
  | nil => exact absurd rfl ne
  | cons c t =>
    rw [lowerAfter]
    split
    · simp
    · simp [(lowerChar_stopless (ht c (by simp))).1]

theorem piecewise_lower : Piecewise lower where
  nil := rfl
  stop a b _ hc := lowerAfter_append_stop hc [] a b
  piece ne ha := ⟨lowerAfter_ne_nil ne ha [], lowerAfter_stopless ha []⟩

end Stepper.Unicode

namespace Stepper.Asm.Source

open Numeral Text Unicode

/-! ### Names of registers -/

theorem takeWhile_append_cons {p : Char → Bool} {c : Char} (hc : p c = false) (a b : Text) :
    (a ++ c :: b).takeWhile p = a.takeWhile p := by
  induction a with
  | nil => simp [hc]
  | cons d a ih => simp [List.takeWhile_cons, ih]

theorem isDigit_of_isStop {c : Char} (hc : isStop c = true) : isDigit c = false := by
  by_contra h
  simp [isStop_of_isDigit (by simpa using h)] at hc

theorem renameRegisters_append_stop {c : Char} (hc : isStop c = true) (inWord : Bool) (a b : Text) :
    renameRegisters inWord (a ++ c :: b) = renameRegisters inWord a ++ c :: renameRegisters false b := by
  induction a generalizing inWord with
  | nil =>
    have hr : c ≠ 'r' := by
      rintro rfl
      exact absurd hc (by decide)
    simp [renameRegisters, hr, isWord_of_isStop hc]
  | cons d a ih =>
    -- the digits behind a character end before the stop, and the stop ends the word as the end does
    have htake := takeWhile_append_cons (isDigit_of_isStop hc) a b
    have hle : (a.takeWhile isDigit).length ≤ a.length := (List.takeWhile_sublist _).length_le
    have hdrop : (a ++ c :: b).drop (a.takeWhile isDigit).length =
        a.drop (a.takeWhile isDigit).length ++ c :: b := List.drop_append_of_le_length hle
    rw [List.cons_append, renameRegisters, renameRegisters, ih]
    simp only [htake, hdrop, List.cons_append]
    cases a.drop (a.takeWhile isDigit).length with
    | nil => simp [isWord_of_isStop hc]
    | cons e r => rfl

theorem mem_renameRegisters {inWord : Bool} {t : Text} {c : Char} (h : c ∈ renameRegisters inWord t) :
    c = 'x' ∨ c ∈ t := by
  induction t generalizing inWord with
  | nil => simp [renameRegisters] at h
  | cons d t ih =>
    rw [renameRegisters] at h
    rcases List.mem_cons.1 h with h | h
    · split_ifs at h
      · exact .inl h
      · exact .inr (by simp [h])
    · exact (ih h).imp_right fun h => by simp [h]

theorem piecewise_renameRegisters : Piecewise (renameRegisters false) where
  nil := rfl
  stop a b _ hc := renameRegisters_append_stop hc false a b
  piece {a} ne ha := by
    refine ⟨?_, fun c hc => ?_⟩
    · cases a with
      | nil => exact absurd rfl ne
      | cons c a => simp [renameRegisters]
    · rcases mem_renameRegisters hc with rfl | hc
      · decide
      · exact ha c hc

/-! ### Labels -/

theorem joinsName_of_isStop {c : Char} (hc : isStop c = true) : joinsName c = false := by
  have hdot : c ≠ '.' := by
    rintro rfl
    exact absurd hc (by decide)
  have hdollar : c ≠ '$' := by
    rintro rfl
    exact absurd hc (by decide)
  simp [joinsName, isWord_of_isStop hc, hdot, hdollar]

theorem replaceName_stop {c : Char} (hc : isStop c = true) (name value t : Text) :
    replaceName name value (some c) 0 t = replaceName name value none 0 t := by
  have hnum : c ≠ '#' := by
    rintro rfl
    exact absurd hc (by decide)
  have hbare : startsBare (some c) = startsBare none := by
    simp [startsBare, joinsName_of_isStop hc, hnum]
  cases t with
  | nil => rfl
  | cons d t => simp only [replaceName, hbare]

/-- What is spelled as the name of a label. -/
structure LabelName (name : Text) : Prop where
  start : ∃ c rest, name = c :: rest ∧ isNameStart c = true
  chars : ∀ c ∈ name, isNameChar c = true

theorem LabelName.ne_nil {name : Text} (h : LabelName name) : name ≠ [] := by
  obtain ⟨c, rest, rfl, -⟩ := h.start
  simp

theorem LabelName.stopless {name : Text} (h : LabelName name) : Stopless name :=
  fun c hc => isStop_of_isNameChar (h.chars c hc)

theorem prefix_append_stop_iff {name : Text} (hn : Stopless name) {c : Char} (hc : isStop c = true) (a b : Text) :
    name <+: a ++ c :: b ↔ name <+: a := by
  induction a generalizing name with
  | nil =>
    cases name with
    | nil => simp
    | cons d name =>
      have hd : d ≠ c := by
        rintro rfl
        simp [hn d (by simp)] at hc
      simp [List.cons_prefix_cons, hd]
  | cons e a ih =>
    cases name with
    | nil => simp
    | cons d name =>
      rw [List.cons_append, List.cons_prefix_cons, List.cons_prefix_cons, ih fun f hf => hn f (by simp [hf])]

theorem endsBare_append_stop {c : Char} (hc : isStop c = true) (a b : Text) :
    endsBare (a ++ c :: b) = endsBare a := by
  cases a with
  | nil => simp [endsBare, joinsName_of_isStop hc]
  | cons d a => rfl

section

variable {name : Text} (hn : LabelName name) (value : Text)

include hn

theorem replaceName_append_stop {c : Char} (hc : isStop c = true) (before : Option Char) (skip : Nat)
    (a b : Text) (hskip : skip ≤ a.length) :
    replaceName name value before skip (a ++ c :: b) =
      replaceName name value before skip a ++ c :: replaceName name value none 0 b := by
  induction a generalizing before skip with
  | nil =>
    obtain rfl : skip = 0 := by simpa using hskip
    have hno : name.isPrefixOf (c :: b) = false := by
      rw [Bool.eq_false_iff]
      intro h
      have := (prefix_append_stop_iff hn.stopless hc [] b).1 (List.isPrefixOf_iff_prefix.1 h)
      exact hn.ne_nil (List.prefix_nil.1 this)
    simp [replaceName, hno, replaceName_stop hc]
  | cons d a ih =>
    cases skip with
    | succ k => exact ih (some d) k (by simpa using hskip)
    | zero =>
      have hpre : name.isPrefixOf (d :: (a ++ c :: b)) = name.isPrefixOf (d :: a) := by
        have := prefix_append_stop_iff hn.stopless hc (d :: a) b
        rw [← List.isPrefixOf_iff_prefix, ← List.isPrefixOf_iff_prefix] at this
        exact Bool.eq_iff_iff.2 this
      by_cases hp : name.isPrefixOf (d :: a) = true
      · have hle : name.length ≤ (d :: a).length := (List.isPrefixOf_iff_prefix.1 hp).length_le
        have hdrop : ((d :: a) ++ c :: b).drop name.length = (d :: a).drop name.length ++ c :: b :=
          List.drop_append_of_le_length hle
        have hk : name.length - 1 ≤ a.length := by simpa using hle
        rw [List.cons_append] at hdrop
        simp only [List.cons_append, replaceName, hpre, hdrop, endsBare_append_stop hc, ih (some d) 0 (by omega),
          ih (some d) (name.length - 1) hk]
        split <;> simp
      · simp [replaceName, hpre, hp, ih (some d) 0 (by omega)]

omit hn in
theorem mem_replaceName {before : Option Char} {skip : Nat} {t : Text} {c : Char}
    (h : c ∈ replaceName name value before skip t) : c ∈ value ∨ c ∈ t := by
  induction t generalizing before skip with
  | nil => simp [replaceName] at h
  | cons d t ih =>
    cases skip with
    | succ k => exact (ih h).imp_right fun h => by simp [h]
    | zero =>
      rw [replaceName] at h
      split at h
      · rcases List.mem_append.1 h with h | h
        · exact .inl h
        · exact (ih h).imp_right fun h => by simp [h]
      · rcases List.mem_cons.1 h with rfl | h
        · exact .inr (by simp)
        · exact (ih h).imp_right fun h => by simp [h]

theorem piecewise_replaceName (ne : value ≠ []) (hv : Stopless value) :
    Piecewise (replaceName name value none 0) where
  nil := rfl
  stop a b _ hc := replaceName_append_stop hn value hc none 0 a b (Nat.zero_le _)
  piece {a} ha hs := by
    refine ⟨?_, fun c hc => ?_⟩
    · cases a with
      | nil => exact absurd rfl ha
      | cons d a =>
        rw [replaceName]
        split
        · simp [ne]
        · simp
    · rcases mem_replaceName value hc with h | h
      · exact hv c h
      · exact hs c h

end

theorem stopless_shown {v : Int} (hv : 0 ≤ v) : Stopless (shown v) := by
  obtain ⟨n, rfl⟩ := Int.eq_ofNat_of_zero_le hv
  rw [shown_ofNat]
  intro c hc
  rcases List.mem_cons.1 hc with rfl | hc
  · decide
  · rcases List.mem_cons.1 hc with rfl | hc
    · decide
    · exact isStop_of_isHexDigit (isHexDigit_of_mem_natHex hc)

/-- All names of labels are names. -/
def Named {α : Type} (labels : List (Text × α)) : Prop := ∀ l ∈ labels, LabelName l.1

theorem piecewise_resolve {base : Int} (hb : 0 ≤ base) {labels : List (Text × Nat)} (h : Named labels) :
    Piecewise (resolve base labels) := by
  suffices hgen : ∀ ls, Named ls → ∀ {g : Text → Text}, Piecewise g → Piecewise fun t =>
      ls.foldl (fun t (l : Text × Nat) => replaceName l.1 (shown (base + l.2 * instructionSize)) none 0 t) (g t) from
    hgen labels h ⟨rfl, fun _ _ _ _ => rfl, fun ne ha => ⟨ne, ha⟩⟩
  intro ls
  induction ls with
  | nil => exact fun _ _ hg => hg
  | cons l ls ih =>
    intro hls g hg
    have hpos : 0 ≤ base + (l.2 : Int) * instructionSize := by positivity
    have hrep := piecewise_replaceName (hls l (by simp)) (shown (base + l.2 * instructionSize))
      (by simp [shown]) (stopless_shown hpos)
    exact ih (fun m hm => hls m (by simp [hm])) (hrep.comp hg)

end Stepper.Asm.Source
