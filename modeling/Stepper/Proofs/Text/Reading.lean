import Mathlib.Data.List.Forall2
import Stepper.Text.Basic

/-! Lists that are read item by item, up to the first one that cannot be read. -/

namespace Stepper

variable {ε α β : Type} {f : α → Except ε β}

theorem mapM_cons (f : α → Except ε β) (a : α) (l : List α) :
    (a :: l).mapM f = (f a).bind fun b => (l.mapM f).map (b :: ·) := by
  rw [List.mapM_cons]
  cases f a with
  | error e => rfl
  | ok b => cases l.mapM f <;> rfl

theorem mapM_eq_ok_iff {l : List α} {bs : List β} : l.mapM f = .ok bs ↔ List.Forall₂ (fun a b => f a = .ok b) l bs := by
  induction l generalizing bs with
  | nil => cases bs <;> simp [pure, Except.pure]
  | cons a l ih =>
    rw [mapM_cons]
    cases ha : f a with
    | error e =>
      refine iff_of_false (by simp [Except.bind]) fun h => ?_
      cases h with
      | cons hb _ => simp [ha] at hb
    | ok b =>
      cases hl : l.mapM f with
      | error e =>
        refine iff_of_false (by simp [Except.bind, Except.map]) fun h => ?_
        cases h with
        | cons _ hrest => simp [ih.2 hrest] at hl
      | ok bs' =>
        have hrest := ih.1 hl
        constructor
        · intro h
          obtain rfl := Except.ok.inj h
          exact .cons ha hrest
        · intro h
          cases h with
          | cons hb hbs =>
            obtain rfl := Except.ok.inj (ha.symm.trans hb)
            obtain rfl := Except.ok.inj (hl.symm.trans (ih.2 hbs))
            rfl

theorem exists_mapM_eq_ok {l : List α} (h : ∀ a ∈ l, ∃ b, f a = .ok b) : ∃ bs, l.mapM f = .ok bs := by
  induction l with
  | nil => exact ⟨[], rfl⟩
  | cons a l ih =>
    obtain ⟨b, hb⟩ := h a List.mem_cons_self
    obtain ⟨bs, hbs⟩ := ih fun x hx => h x (List.mem_cons_of_mem _ hx)
    exact ⟨b :: bs, by rw [mapM_cons, hb, hbs]; rfl⟩

theorem exists_mem_of_mapM {l : List α} {bs : List β} (h : l.mapM f = .ok bs) {a : α} (ha : a ∈ l) :
    ∃ b ∈ bs, f a = .ok b := by
  induction mapM_eq_ok_iff.1 h with
  | nil => simp at ha
  | @cons a' b l bs hb hrest ih =>
    rcases List.mem_cons.1 ha with rfl | ha
    · exact ⟨b, List.mem_cons_self, hb⟩
    · obtain ⟨b', hmem, hb'⟩ := ih (mapM_eq_ok_iff.2 hrest) ha
      exact ⟨b', List.mem_cons_of_mem _ hmem, hb'⟩

theorem exists_of_mem_mapM {l : List α} {bs : List β} (h : l.mapM f = .ok bs) {b : β} (hb : b ∈ bs) :
    ∃ a ∈ l, f a = .ok b := by
  induction mapM_eq_ok_iff.1 h with
  | nil => simp at hb
  | @cons a b' l bs ha hrest ih =>
    rcases List.mem_cons.1 hb with rfl | hb
    · exact ⟨a, List.mem_cons_self, ha⟩
    · obtain ⟨a', hmem, ha'⟩ := ih (mapM_eq_ok_iff.2 hrest) hb
      exact ⟨a', List.mem_cons_of_mem _ hmem, ha'⟩

/-- Two readings of one list agree on all of it in what they agree on at each item. -/
theorem forall₂_of_mapM {g : α → Except ε β} {R : β → β → Prop} {l : List α} {bs bs' : List β} (h : l.mapM f = .ok bs)
    (h' : l.mapM g = .ok bs') (hR : ∀ a ∈ l, ∀ b b', f a = .ok b → g a = .ok b' → R b b') : List.Forall₂ R bs bs' := by
  rw [mapM_eq_ok_iff] at h h'
  induction h generalizing bs' with
  | nil =>
    cases h'
    exact .nil
  | @cons a b l bs hb hrest ih =>
    cases h' with
    | cons hb' hrest' =>
      exact .cons (hR a List.mem_cons_self _ _ hb hb') (ih hrest' fun x hx => hR x (List.mem_cons_of_mem _ hx))

end Stepper
