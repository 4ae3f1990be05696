import Mathlib.Data.List.Infix
import Stepper.Asm.Comment

/-! Marks in a text, and the text up to the first of them. In front of a text in which no mark begins, cutting takes
nothing off. -/

namespace Stepper.Asm

/-- No mark begins in a text, whatever follows it. -/
def Clear (mark t : Text) : Prop :=
  ∀ u ≠ [], u <:+ t → ∀ v, ¬ mark <+: u ++ v

variable {mark : Text}

theorem clear_nil : Clear mark [] := fun _ ne hu => absurd (List.suffix_nil.1 hu) ne

theorem Clear.append {a b : Text} (ha : Clear mark a) (hb : Clear mark b) : Clear mark (a ++ b) := by
  intro u ne hu v
  obtain ⟨w, hw⟩ := hu
  rcases List.append_eq_append_iff.1 hw with ⟨a', rfl, rfl⟩ | ⟨b', rfl, rfl⟩
  · -- the part begins in the first text, or is all of the second one
    cases a' with
    | nil => exact hb _ ne (List.suffix_refl _) v
    | cons c a' =>
      rw [List.append_assoc]
      exact ha _ (by simp) (List.suffix_append _ _) _
  · exact hb u ne (List.suffix_append _ _) v

theorem Clear.tail {c : Char} {t : Text} (h : Clear mark (c :: t)) : Clear mark t :=
  fun u ne hu => h u ne (hu.trans (List.suffix_cons c t))

/-- No mark begins where its first character is not. -/
theorem clear_of_head {c : Char} {m t : Text} (h : c ∉ t) : Clear (c :: m) t := by
  intro u ne hu v hprefix
  obtain ⟨d, u', rfl⟩ := List.exists_cons_of_ne_nil ne
  obtain ⟨rfl, -⟩ := List.cons_prefix_cons.1 hprefix
  exact h (hu.subset (by simp))

theorem cutAt_append {a : Text} (h : Clear mark a) (t : Text) : cutAt mark (a ++ t) = a ++ cutAt mark t := by
  induction a with
  | nil => rfl
  | cons c a ih =>
    have hno : ¬ mark.isPrefixOf (c :: (a ++ t)) = true := by
      rw [List.isPrefixOf_iff_prefix]
      exact h (c :: a) (by simp) (List.suffix_refl _) t
    rw [List.cons_append, cutAt, if_neg hno, ih h.tail, List.cons_append]

theorem cutAt_mark (ne : mark ≠ []) (t : Text) : cutAt mark (mark ++ t) = [] := by
  obtain ⟨c, m, rfl⟩ := List.exists_cons_of_ne_nil ne
  have hprefix : (c :: m).isPrefixOf (c :: (m ++ t)) = true := List.isPrefixOf_iff_prefix.2 (List.prefix_append (c :: m) t)
  rw [List.cons_append, cutAt, if_pos hprefix]

end Stepper.Asm
