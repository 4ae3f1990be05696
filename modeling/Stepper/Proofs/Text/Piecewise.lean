import Stepper.Proofs.Unicode.Stop

/-! Maps that work piece by piece: they leave the stops of a text where they are and turn each piece between
two stops into another piece. Such a map keeps a tidy text tidy, leaves comments and what is none alone, and
commutes with trimming. -/

namespace Stepper.Text

open Unicode Asm

structure Piecewise (f : Text → Text) : Prop where
  nil : f [] = []
  stop : ∀ (a b : Text) {c : Char}, isStop c = true → f (a ++ c :: b) = f a ++ c :: f b
  piece : ∀ {a : Text}, a ≠ [] → Stopless a → f a ≠ [] ∧ Stopless (f a)

/-- A text is one piece, or a piece with a stop and the rest behind it. -/
theorem stop_induction {P : Text → Prop} (last : ∀ a, Stopless a → P a)
    (stop : ∀ a c b, Stopless a → isStop c = true → P b → P (a ++ c :: b)) (t : Text) : P t := by
  suffices h : ∀ a, Stopless a → P (a ++ t) from h [] stopless_nil
  induction t with
  | nil => intro a ha; simpa using last a ha
  | cons c t ih =>
    intro a ha
    by_cases hc : isStop c = true
    · exact stop a c t ha hc (ih [] stopless_nil)
    · have hac : Stopless (a ++ [c]) := ha.append (by simpa [Stopless] using hc)
      simpa using ih (a ++ [c]) hac

namespace Piecewise

variable {f : Text → Text} (hf : Piecewise f)

include hf

theorem comp {g : Text → Text} (hg : Piecewise g) : Piecewise (fun t => f (g t)) where
  nil := by rw [hg.nil, hf.nil]
  stop a b c hc := by rw [hg.stop a b hc, hf.stop _ _ hc]
  piece ne ha := hf.piece (hg.piece ne ha).1 (hg.piece ne ha).2

theorem cons_stop {c : Char} (hc : isStop c = true) (b : Text) : f (c :: b) = c :: f b := by
  have := hf.stop [] b hc
  simpa [hf.nil] using this

theorem stopless {a : Text} (ha : Stopless a) : Stopless (f a) := by
  by_cases ne : a = []
  · rw [ne, hf.nil]
    exact stopless_nil
  · exact (hf.piece ne ha).2

theorem stopless_of {t : Text} (h : Stopless (f t)) : Stopless t := by
  intro c hc
  by_contra hs
  obtain ⟨a, b, rfl⟩ := List.append_of_mem hc
  have hs : isStop c = true := by simpa using hs
  rw [hf.stop a b hs] at h
  have := h c (by simp)
  simp [hs] at this

theorem eq_nil_iff (t : Text) : f t = [] ↔ t = [] := by
  constructor
  · intro h
    induction t using stop_induction with
    | last a ha =>
      by_contra ne
      exact (hf.piece ne ha).1 h
    | stop a c b ha hc ih => simp [hf.stop a b hc] at h
  · rintro rfl
    exact hf.nil

theorem append_allStop {b : Text} (hb : ∀ c ∈ b, isStop c = true) (a : Text) : f (a ++ b) = f a ++ b := by
  induction b generalizing a with
  | nil => simp
  | cons c b ih =>
    have hb' := ih (fun d hd => hb d (by simp [hd])) []
    rw [hf.stop a b (hb c (by simp))]
    simpa [hf.nil] using hb'

theorem allStop_append {a : Text} (ha : ∀ c ∈ a, isStop c = true) (b : Text) : f (a ++ b) = a ++ f b := by
  induction a with
  | nil => rfl
  | cons c a ih =>
    rw [List.cons_append, hf.cons_stop (ha c (by simp)), ih fun d hd => ha d (by simp [hd]), List.cons_append]

theorem solid {w : Text} (h : Solid w) : Solid (f w) := by
  induction w using stop_induction with
  | last a ha => exact (hf.stopless ha).solid
  | stop a c b ha hc ih =>
    have hb : Solid b := fun d hd => h d (by simp [hd])
    rw [hf.stop a b hc]
    refine (hf.stopless ha).solid.append ?_
    intro d hd
    rcases List.mem_cons.1 hd with rfl | hd
    · exact h d (by simp)
    · exact ih hb d hd

theorem tidy {t : Text} (h : Tidy t) : Tidy (f t) := by
  induction h with
  | word ne solid => exact .word (fun h0 => ne ((hf.eq_nil_iff _).1 h0)) (hf.solid solid)
  | space ne solid rest ih =>
    rw [hf.stop _ _ isStop_space]
    exact .space (fun h0 => ne ((hf.eq_nil_iff _).1 h0)) (hf.solid solid) ih

theorem scan_after (s : Scan) (t : Text) : s.after (f t) = s.after t := by
  induction t using stop_induction generalizing s with
  | last a ha =>
    by_cases ne : a = []
    · rw [ne, hf.nil]
    · obtain ⟨ne', ha'⟩ := hf.piece ne ha
      rw [Scan.after_of_unmarked ne' ha'.unmarked, Scan.after_of_unmarked ne ha.unmarked]
  | stop a c b ha hc ih =>
    rw [hf.stop a b hc, Scan.after_append, Scan.after_append, Scan.after_cons, Scan.after_cons, ih]
    by_cases ne : a = []
    · rw [ne, hf.nil]
    · obtain ⟨ne', ha'⟩ := hf.piece ne ha
      rw [Scan.after_of_unmarked ne' ha'.unmarked, Scan.after_of_unmarked ne ha.unmarked]

theorem head_isBlank {t : Text} (h : ∀ c ∈ t.head?, isBlank c = false) : ∀ c ∈ (f t).head?, isBlank c = false := by
  induction t using stop_induction with
  | last a ha =>
    intro c hc
    exact (hf.stopless ha).solid c (List.mem_of_mem_head? hc)
  | stop a c b ha hc ih =>
    rw [hf.stop a b hc]
    cases a with
    | nil => simpa [hf.nil] using h
    | cons d a =>
      obtain ⟨ne, hs⟩ := hf.piece (by simp) ha
      intro e he
      rw [List.head?_append_of_ne_nil _ ne] at he
      exact hs.solid e (List.mem_of_mem_head? he)

theorem last_isBlank {t : Text} (h : ∀ c ∈ t.getLast?, isBlank c = false) :
    ∀ c ∈ (f t).getLast?, isBlank c = false := by
  induction t using stop_induction with
  | last a ha =>
    intro c hc
    exact (hf.stopless ha).solid c (List.mem_of_getLast? hc)
  | stop a c b ha hc ih =>
    rw [hf.stop a b hc, List.getLast?_append_cons]
    rw [List.getLast?_append_cons] at h
    by_cases ne : b = []
    · subst ne
      simpa [hf.nil] using h
    · have ne' : f b ≠ [] := fun h0 => ne ((hf.eq_nil_iff b).1 h0)
      rw [List.getLast?_cons_of_ne_nil ne']
      rw [List.getLast?_cons_of_ne_nil ne] at h
      exact ih h

theorem trimmed {t : Text} (h : Trimmed t) : Trimmed (f t) :=
  ⟨hf.head_isBlank h.head, hf.last_isBlank h.last⟩

theorem trim (t : Text) : f (trim t) = Text.trim (f t) := by
  obtain ⟨a, b, ha, hb, ht⟩ := exists_trim t
  have ha' : ∀ c ∈ a, isStop c = true := fun c hc => isStop_of_isBlank (ha c hc)
  have hb' : ∀ c ∈ b, isStop c = true := fun c hc => isStop_of_isBlank (hb c hc)
  conv_rhs => rw [ht]
  rw [hf.allStop_append ha', hf.append_allStop hb', trim_between ha hb (hf.trimmed (trimmed_trim t))]

end Piecewise

end Stepper.Text
