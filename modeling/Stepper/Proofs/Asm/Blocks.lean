import Mathlib.Data.List.Infix
import Stepper.Proofs.Asm.Comment

/-! Block comments in a text that is put together. Where a border between two parts lies outside any block comment the
blocks of each part are dropped on their own, and another text may stand behind the border if it closes no block. -/

namespace Stepper.Asm

open Text

/-- A block comment stands in front, and what is behind it. -/
def OpensBlock (t behind : Text) : Prop :=
  ∃ rest, t = '/' :: '*' :: rest ∧ afterClose? rest = some behind

/-- From the start of a text one comes to an end of it over whole block comments and characters outside of them. -/
inductive Uncovered : Text → Text → Prop
  | here (t : Text) : Uncovered t t
  | block {t behind tail : Text} (opens : OpensBlock t behind) (uncovered : Uncovered behind tail) : Uncovered t tail
  | char {c : Char} {rest tail : Text} (opens : ∀ behind, ¬ OpensBlock (c :: rest) behind) (uncovered : Uncovered rest tail) :
      Uncovered (c :: rest) tail

/-! ### The end of a block -/

/-- Two characters in a row stand in one of two parts or over the border between them. -/
theorem pair_infix_append_iff {x y : Char} {a b : Text} :
    [x, y] <:+: a ++ b ↔ [x, y] <:+: a ∨ [x, y] <:+: b ∨ a.getLast? = some x ∧ b.head? = some y := by
  rw [List.infix_append_iff]
  constructor
  · rintro (h | h | ⟨l, r, hpair, hl, hr⟩)
    · exact .inl h
    · exact .inr (.inl h)
    · match l with
      | [] => exact .inr (.inl (hpair ▸ hr.isInfix))
      | [_] =>
        obtain ⟨rfl, rfl⟩ := List.cons.inj hpair
        exact .inr (.inr ⟨List.singleton_suffix_iff_getLast?_eq_some.1 hl, List.singleton_prefix_iff_head?_eq_some.1 hr⟩)
      | _ :: _ :: l =>
        obtain ⟨rfl, rfl, hnil⟩ : _ ∧ _ ∧ [] = l ++ r := by simpa using hpair
        obtain ⟨rfl, rfl⟩ := List.append_eq_nil_iff.1 hnil.symm
        exact .inl hl.isInfix
  · rintro (h | h | ⟨hl, hr⟩)
    · exact .inl h
    · exact .inr (.inl h)
    · exact .inr (.inr ⟨[x], [y], rfl, List.singleton_suffix_iff_getLast?_eq_some.2 hl,
        List.singleton_prefix_iff_head?_eq_some.2 hr⟩)

theorem afterClose?_eq_none_iff (t : Text) : afterClose? t = none ↔ ¬ ['*', '/'] <:+: t := by
  fun_induction afterClose? t with
  | case1 rest => simpa using ⟨[], rest, rfl⟩
  | case2 c rest hne ih =>
    have hfront : ¬ ['*', '/'] <+: c :: rest := by
      rintro ⟨r, hr⟩
      simp only [List.cons_append, List.nil_append, List.cons.injEq] at hr
      exact hne r hr.1.symm hr.2.symm
    rw [ih, List.infix_cons_iff, not_or]
    exact ⟨fun h => ⟨hfront, h⟩, And.right⟩
  | case3 => simp

theorem exists_afterClose? {t : Text} : (∃ behind, afterClose? t = some behind) ↔ ['*', '/'] <:+: t := by
  rw [← Option.ne_none_iff_exists', ne_eq, afterClose?_eq_none_iff, not_not]

theorem afterClose?_cons_of_ne {c : Char} {rest : Text} (h : ∀ r, c = '*' → rest = '/' :: r → False) :
    afterClose? (c :: rest) = afterClose? rest := by
  rw [afterClose?]
  exact h

theorem afterClose?_append {t behind : Text} (h : afterClose? t = some behind) (b : Text) :
    afterClose? (t ++ b) = some (behind ++ b) := by
  fun_induction afterClose? t with
  | case1 rest =>
    obtain rfl := Option.some.inj h
    rfl
  | case2 c rest hne ih =>
    cases rest with
    | nil => simp [afterClose?] at h
    | cons d rest =>
      rw [List.cons_append, afterClose?_cons_of_ne fun r hc hr => hne rest hc (by rw [(List.cons.inj hr).1])]
      exact ih h
  | case3 => simp at h

/-- A block that is closed in front of a border is closed without what is behind the border. -/
theorem afterClose?_of_append {a a' b : Text} (h : afterClose? (a ++ b) = some (a' ++ b)) : afterClose? a = some a' := by
  have hlong : ∀ {t : Text}, t.length ≤ b.length → afterClose? t ≠ some (a' ++ b) := by
    intro t ht h
    have := length_of_afterClose? h
    simp only [List.length_append] at this
    omega
  fun_induction afterClose? a with
  | case1 rest =>
    have : rest ++ b = a' ++ b := Option.some.inj h
    rw [List.append_cancel_right this]
  | case2 c rest hne ih =>
    cases rest with
    | nil =>
      rw [List.singleton_append, afterClose?.eq_def] at h
      split at h
      · next r heq =>
        have hb : b = '/' :: r := (List.cons.inj heq).2
        have := congrArg List.length (Option.some.inj h)
        simp only [hb, List.length_append, List.length_cons] at this
        omega
      · next heq =>
        obtain ⟨rfl, rfl⟩ := List.cons.inj heq
        exact absurd h (hlong le_rfl)
      · simp at h
    | cons d rest =>
      rw [List.cons_append, afterClose?_cons_of_ne fun r hc hr => hne rest hc (by rw [(List.cons.inj hr).1])] at h
      exact ih h
  | case3 => exact absurd h (hlong le_rfl)

/-! ### Blocks in front -/

theorem OpensBlock.append {t behind : Text} (h : OpensBlock t behind) (b : Text) : OpensBlock (t ++ b) (behind ++ b) := by
  obtain ⟨rest, rfl, hclose⟩ := h
  exact ⟨rest ++ b, rfl, afterClose?_append hclose b⟩

theorem OpensBlock.cons {c : Char} {rest behind : Text} (h : OpensBlock (c :: rest) behind) :
    c = '/' ∧ ∃ r, rest = '*' :: r ∧ afterClose? r = some behind := by
  obtain ⟨r, heq, hclose⟩ := h
  obtain ⟨rfl, rfl⟩ := List.cons.inj heq
  exact ⟨rfl, r, rfl, hclose⟩

theorem OpensBlock.length {t behind : Text} (h : OpensBlock t behind) : behind.length + 2 ≤ t.length := by
  obtain ⟨rest, rfl, hclose⟩ := h
  have := length_of_afterClose? hclose
  simp only [List.length_cons]
  omega

theorem OpensBlock.suffix {t behind : Text} (h : OpensBlock t behind) : behind <:+ t := by
  obtain ⟨rest, rfl, hclose⟩ := h
  exact (afterClose?_suffix hclose).trans ⟨['/', '*'], rfl⟩

/-- Where no block begins that is closed, an opening has no end behind it. -/
theorem unclosed_of_not_opensBlock {r : Text} (h : ∀ behind, ¬ OpensBlock ('/' :: '*' :: r) behind) : ¬ ['*', '/'] <:+: r := by
  rw [← exists_afterClose?]
  rintro ⟨behind, hclose⟩
  exact h behind ⟨r, rfl, hclose⟩

theorem OpensBlock.of_append {a a' b : Text} (h : OpensBlock (a ++ b) (a' ++ b)) : OpensBlock a a' := by
  have hlen : a'.length + 2 ≤ a.length := by
    have := h.length
    simp only [List.length_append] at this
    omega
  obtain ⟨rest, heq, hclose⟩ := h
  match a with
  | [] => simp at hlen
  | [c] => simp at hlen
  | c :: d :: a =>
    simp only [List.cons_append, List.cons.injEq] at heq
    obtain ⟨rfl, rfl, rfl⟩ := heq
    exact ⟨a, rfl, afterClose?_of_append hclose⟩

theorem OpensBlock.dropBlocks_eq {t behind : Text} (h : OpensBlock t behind) : dropBlocks t = dropBlocks behind := by
  obtain ⟨rest, rfl, hclose⟩ := h
  rw [dropBlocks]
  split
  · next after hafter =>
    rw [hclose] at hafter
    rw [Option.some.inj hafter]
  · next hnone => simp [hclose] at hnone

theorem dropBlocks_of_unclosed {t : Text} (h : ¬ ['*', '/'] <:+: t) : dropBlocks t = t := by
  fun_induction dropBlocks t with
  | case1 => rfl
  | case2 rest after hafter ih =>
    exact absurd ((exists_afterClose?.1 ⟨after, hafter⟩).trans ⟨['/', '*'], [], by simp⟩) h
  | case3 rest hnone => rfl
  | case4 c rest hopen ih => rw [ih fun hi => h (hi.trans (List.suffix_cons c rest).isInfix)]

theorem dropBlocks_cons {c : Char} {rest : Text} (h : ∀ behind, ¬ OpensBlock (c :: rest) behind) :
    dropBlocks (c :: rest) = c :: dropBlocks rest := by
  by_cases hopen : c = '/' ∧ ∃ r, rest = '*' :: r
  · obtain ⟨rfl, r, rfl⟩ := hopen
    have hunclosed := unclosed_of_not_opensBlock h
    -- nothing is closed any more, so the rest stays as it is
    have hstar : dropBlocks ('*' :: r) = '*' :: r := by
      rw [dropBlocks, dropBlocks_of_unclosed hunclosed]
      intro r' hc
      exact absurd hc (by decide)
    rw [hstar, dropBlocks]
    split
    · next hafter => exact absurd (exists_afterClose?.1 ⟨_, hafter⟩) hunclosed
    · rfl
  · rw [dropBlocks]
    intro r hc hr
    exact hopen ⟨hc, r, hr⟩

theorem dropBlocks_sublist (t : Text) : (dropBlocks t).Sublist t := by
  fun_induction dropBlocks t with
  | case1 => exact List.Sublist.refl []
  | case2 rest after hafter ih =>
    exact ih.trans ((afterClose?_suffix hafter).trans ⟨['/', '*'], rfl⟩).sublist
  | case3 rest hnone => exact List.Sublist.refl _
  | case4 c rest hopen ih => exact ih.cons_cons c

/-! ### Borders -/

theorem Uncovered.suffix {t tail : Text} (h : Uncovered t tail) : tail <:+ t := by
  induction h with
  | here t => exact List.suffix_rfl
  | block opens _ ih => exact ih.trans opens.suffix
  | char _ _ ih => exact ih.trans (List.suffix_cons _ _)

theorem Uncovered.trans {t mid tail : Text} (h : Uncovered t mid) (h' : Uncovered mid tail) : Uncovered t tail := by
  induction h with
  | here t => exact h'
  | block opens _ ih => exact .block opens (ih h')
  | char opens _ ih => exact .char opens (ih h')

/-- A text in front of a border is read from the start to the border in the same way without what is behind it. -/
theorem dropBlocks_of_uncovered {t tail : Text} (h : Uncovered t tail) {a : Text} (ha : t = a ++ tail) :
    dropBlocks t = dropBlocks a ++ dropBlocks tail := by
  induction h generalizing a with
  | here t =>
    obtain rfl : a = [] := by simpa using ha
    simp [dropBlocks]
  | block opens uncovered ih =>
    obtain ⟨a', rfl⟩ := uncovered.suffix
    subst ha
    rw [opens.dropBlocks_eq, ih rfl, opens.of_append.dropBlocks_eq]
  | @char c rest tail opens uncovered ih =>
    cases a with
    | nil =>
      rw [show tail = c :: rest from ha.symm, dropBlocks, List.nil_append]
    | cons d a =>
      obtain ⟨rfl, rfl⟩ := List.cons.inj ha
      have hfront : ∀ behind, ¬ OpensBlock (c :: a) behind := fun behind h => opens _ (h.append tail)
      rw [dropBlocks_cons opens, ih rfl, dropBlocks_cons hfront, List.cons_append]

theorem dropBlocks_append {a b : Text} (h : Uncovered (a ++ b) b) : dropBlocks (a ++ b) = dropBlocks a ++ dropBlocks b :=
  dropBlocks_of_uncovered h rfl

theorem infix_of_shorten {a b b' : Text} (hb : b' <:+ b) (hhead : ∀ c ∈ b'.head?, c ≠ '/')
    (h : ['*', '/'] <:+: a ++ b') : ['*', '/'] <:+: a ++ b := by
  rcases pair_infix_append_iff.1 h with h | h | ⟨-, hslash⟩
  · exact pair_infix_append_iff.2 (.inl h)
  · exact pair_infix_append_iff.2 (.inr (.inl (h.trans hb.isInfix)))
  · exact absurd rfl (hhead '/' hslash)

/-- A border stays outside if less text stands behind it, where the first character of what is left closes no block. -/
theorem Uncovered.shorten {a b b' : Text} (h : Uncovered (a ++ b) b) (hb : b' <:+ b)
    (hhead : ∀ c ∈ b'.head?, c ≠ '/' ∧ c ≠ '*') : Uncovered (a ++ b') b' := by
  generalize ht : a ++ b = t at h
  induction h generalizing a with
  | here t =>
    obtain rfl : a = [] := by simpa using ht
    exact .here b'
  | block opens uncovered ih =>
    obtain ⟨a', rfl⟩ := uncovered.suffix
    subst ht
    exact .block (opens.of_append.append b') (ih hb rfl)
  | @char c rest tail opens uncovered ih =>
    cases a with
    | nil => exact .here b'
    | cons d a =>
      obtain ⟨rfl, rfl⟩ := List.cons.inj ht
      rw [List.cons_append]
      refine .char (fun behind h => ?_) (ih hb rfl)
      obtain ⟨rfl, r, hr, hclose⟩ := h.cons
      cases a with
      | nil =>
        rw [List.nil_append] at hr
        exact (hhead '*' (by simp [hr])).2 rfl
      | cons d a =>
        obtain ⟨rfl, rfl⟩ := List.cons.inj hr
        have hlong := infix_of_shorten hb (fun c hc => (hhead c hc).1) (exists_afterClose?.1 ⟨behind, hclose⟩)
        obtain ⟨behind', hclose'⟩ := exists_afterClose?.2 hlong
        exact opens behind' ⟨a ++ tail, rfl, hclose'⟩

/-- In front of the first block comment every border is outside. -/
theorem uncovered_of_unopened {a b : Text} (h : ¬ ['/', '*'] <:+: a) (hb : b.head? ≠ some '*') : Uncovered (a ++ b) b := by
  induction a with
  | nil => exact .here b
  | cons c a ih =>
    rw [List.infix_cons_iff, not_or] at h
    rw [List.cons_append]
    refine .char (fun behind hopens => ?_) (ih h.2)
    obtain ⟨rfl, r, hr, -⟩ := hopens.cons
    cases a with
    | nil =>
      rw [List.nil_append] at hr
      simp [hr] at hb
    | cons d a =>
      obtain ⟨rfl, -⟩ := List.cons.inj hr
      exact h.1 ⟨a, rfl⟩

end Stepper.Asm
