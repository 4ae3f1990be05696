import Mathlib.Data.List.Infix
import Stepper.Asm.Comment
import Stepper.Proofs.Text.Layout

/-! Lines without comments. A scan over the characters of a line finds out whether any part of it is a
comment; what stripping leaves has none, and a line that has none is left as it is. The scan sees only the
marks of comments and that there is something between them, so a text may be spelled anew between its marks. -/

namespace Stepper.Asm

open Unicode

/-- What a scan remembers: the last mark, whether it stands behind the opening of a block, and at the end
that there is a comment. -/
inductive Scan where
  | code
  | slash
  | block
  | blockSlash
  | blockStar
  | comment
  deriving DecidableEq

namespace Scan

def onSlash : Scan → Scan
  | code => slash
  | block => blockSlash
  | _ => comment

def onStar : Scan → Scan
  | code => code
  | slash => block
  | comment => comment
  | _ => blockStar

def settle : Scan → Scan
  | code => code
  | slash => code
  | comment => comment
  | _ => block

def step (s : Scan) (c : Char) : Scan :=
  if c = ';' then comment
  else if c = '/' then s.onSlash
  else if c = '*' then s.onStar
  else s.settle

def after (s : Scan) (t : Text) : Scan :=
  t.foldl step s

@[simp] theorem after_nil (s : Scan) : s.after [] = s := rfl

@[simp] theorem after_cons (s : Scan) (c : Char) (t : Text) : s.after (c :: t) = (s.step c).after t := rfl

theorem after_append (s : Scan) (a b : Text) : s.after (a ++ b) = (s.after a).after b := by
  simp [after]

theorem settle_settle (s : Scan) : s.settle.settle = s.settle := by
  cases s <;> rfl

theorem comment_after (t : Text) : comment.after t = comment := by
  induction t with
  | nil => rfl
  | cons c t ih =>
    have : comment.step c = comment := by
      unfold step
      split_ifs <;> rfl
    rw [after_cons, this, ih]

end Scan

def isMark (c : Char) : Bool :=
  c == '/' || c == '*' || c == ';'

def Unmarked (t : Text) : Prop := ∀ c ∈ t, isMark c = false

/-- No part of the text is a comment. -/
def CommentFree (t : Text) : Prop := Scan.code.after t ≠ .comment

namespace Scan

theorem step_of_unmarked {c : Char} (h : isMark c = false) (s : Scan) : s.step c = s.settle := by
  simp only [isMark, Bool.or_eq_false_iff, beq_eq_false_iff_ne] at h
  simp [step, h.1.1, h.1.2, h.2]

theorem after_of_unmarked {w : Text} (ne : w ≠ []) (h : Unmarked w) (s : Scan) : s.after w = s.settle := by
  induction w generalizing s with
  | nil => exact absurd rfl ne
  | cons c w ih =>
    rw [after_cons, step_of_unmarked (h c (by simp))]
    by_cases hw : w = []
    · rw [hw, after_nil]
    · rw [ih hw (fun d hd => h d (by simp [hd])), settle_settle]

theorem code_after_of_unmarked {w : Text} (h : Unmarked w) : code.after w = code := by
  by_cases ne : w = []
  · rw [ne, after_nil]
  · rw [after_of_unmarked ne h, settle]

end Scan

theorem unmarked_of_allBlank {t : Text} (h : Text.AllBlank t) : Unmarked t := by
  intro c hc
  have hb := h c hc
  have ne : ∀ d, isBlank d = false → c ≠ d := by
    rintro d hd rfl
    simp [hb] at hd
  simp [isMark, ne '/' (by decide), ne '*' (by decide), ne ';' (by decide)]

theorem Unmarked.append {a b : Text} (ha : Unmarked a) (hb : Unmarked b) : Unmarked (a ++ b) := by
  intro c hc
  rcases List.mem_append.1 hc with h | h
  · exact ha c h
  · exact hb c h

theorem CommentFree.of_append_left {a b : Text} (h : CommentFree (a ++ b)) : CommentFree a := by
  intro ha
  exact h (by rw [Scan.after_append, ha, Scan.comment_after])

theorem commentFree_append_iff {a : Text} (ha : Unmarked a) (b : Text) :
    CommentFree (a ++ b) ↔ CommentFree b := by
  rw [CommentFree, CommentFree, Scan.after_append, Scan.code_after_of_unmarked ha]

theorem CommentFree.trim {t : Text} (h : CommentFree t) : CommentFree (Text.trim t) := by
  obtain ⟨a, b, ha, -, ht⟩ := Text.exists_trim t
  rw [ht, commentFree_append_iff (unmarked_of_allBlank ha)] at h
  exact h.of_append_left

/-! ### Line comments -/

theorem cutAt_eq_self_iff {m : Text} (hm : m ≠ []) (t : Text) : cutAt m t = t ↔ ¬ m <:+: t := by
  induction t with
  | nil => simp [cutAt, hm]
  | cons c rest ih =>
    rw [cutAt, List.infix_cons_iff, not_or, ← ih, ← List.isPrefixOf_iff_prefix]
    split
    · simp_all
    · simp_all

theorem prefix_cutAt (m t : Text) : cutAt m t <+: t := by
  induction t with
  | nil => simp [cutAt]
  | cons c rest ih =>
    rw [cutAt]
    split
    · exact List.nil_prefix
    · simpa using ih

theorem not_infix_cutAt {m : Text} (hm : m ≠ []) (t : Text) : ¬ m <:+: cutAt m t := by
  induction t with
  | nil => simp [cutAt, hm]
  | cons c rest ih =>
    rw [cutAt]
    split
    · simp [hm]
    · next h =>
      rw [List.infix_cons_iff, not_or]
      refine ⟨fun hp => h ?_, ih⟩
      rw [List.isPrefixOf_iff_prefix]
      exact hp.trans ((List.prefix_cons_inj c).2 (prefix_cutAt m rest))

/-- What the line comments leave: no two slashes in a row and no semicolon. -/
structure Uncut (t : Text) : Prop where
  slashes : ¬ ['/', '/'] <:+: t
  semicolon : ';' ∉ t

theorem uncut_cut (t : Text) : Uncut (cutAt [';'] (cutAt ['/', '/'] t)) := by
  constructor
  · intro h
    exact not_infix_cutAt (by simp) t (h.trans (prefix_cutAt _ _).isInfix)
  · intro h
    exact not_infix_cutAt (m := [';']) (by simp) (cutAt ['/', '/'] t) ((List.singleton_infix_iff _ _).2 h)

theorem Uncut.mono {a b : Text} (h : Uncut b) (hab : a <:+: b) : Uncut a :=
  ⟨fun hs => h.slashes (hs.trans hab), fun hs => h.semicolon (hab.subset hs)⟩

theorem Uncut.tail {c : Char} {t : Text} (h : Uncut (c :: t)) : Uncut t :=
  h.mono (List.suffix_cons c t).isInfix

theorem Uncut.head_ne_slash {d : Char} {t : Text} (h : Uncut ('/' :: d :: t)) : d ≠ '/' := by
  rintro rfl
  exact h.slashes ⟨[], t, rfl⟩

/-! ### Block comments -/

theorem afterClose?_suffix {t r : Text} (h : afterClose? t = some r) : r <:+ t := by
  fun_induction afterClose? t with
  | case1 rest =>
    obtain rfl := Option.some.inj h
    exact ⟨['*', '/'], rfl⟩
  | case2 c rest _ ih => exact (ih h).trans (List.suffix_cons c rest)
  | case3 => simp at h

theorem afterClose?_cons {p c : Char} {t : Text} (h : afterClose? (p :: c :: t) = none) :
    ¬ (p = '*' ∧ c = '/') ∧ afterClose? (c :: t) = none := by
  rw [afterClose?.eq_def] at h
  split at h
  · simp at h
  · next hne heq =>
    simp only [List.cons.injEq] at heq
    obtain ⟨rfl, rfl⟩ := heq
    refine ⟨?_, h⟩
    rintro ⟨rfl, rfl⟩
    exact hne t rfl rfl
  · simp_all

/-- The scan in an open block whose last character is `p`. -/
def Scan.inBlock (p : Char) : Scan :=
  if p = '/' then blockSlash else if p = '*' then blockStar else block

theorem Scan.step_inBlock {p c : Char} (hs : p = '/' → c ≠ '/') (hstar : p = '*' → c ≠ '/') (hc : c ≠ ';') :
    (inBlock p).step c = inBlock c := by
  unfold inBlock step
  split_ifs <;> simp_all [onSlash, onStar, settle]

theorem Scan.inBlock_after {p : Char} {t : Text} (hu : Uncut (p :: t)) (hp : afterClose? (p :: t) = none) :
    (inBlock p).after t ≠ comment := by
  induction t generalizing p with
  | nil =>
    rw [after_nil]
    unfold inBlock
    split_ifs <;> simp
  | cons c t ih =>
    obtain ⟨hclose, hnext⟩ := afterClose?_cons hp
    have hs : p = '/' → c ≠ '/' := by
      rintro rfl
      exact hu.head_ne_slash
    have hc : c ≠ ';' := by
      rintro rfl
      exact hu.semicolon (by simp)
    rw [after_cons, step_inBlock hs (fun h hc => hclose ⟨h, hc⟩) hc]
    exact ih hu.tail hnext

theorem commentFree_dropBlocks {t : Text} (h : Uncut t) : CommentFree (dropBlocks t) := by
  fun_induction dropBlocks t with
  | case1 => simp [CommentFree]
  | case2 rest after hafter ih =>
    exact ih (h.mono ((afterClose?_suffix hafter).trans ⟨['/', '*'], rfl⟩).isInfix)
  | case3 rest hnone =>
    -- a blank in front takes the place of the star that opened the block
    have hu : Uncut (' ' :: rest) := by
      have := h.tail.tail
      refine ⟨?_, by simpa using this.semicolon⟩
      rw [List.infix_cons_iff, not_or]
      exact ⟨by simp, this.slashes⟩
    exact Scan.inBlock_after hu (by simpa [afterClose?] using hnone)
  | case4 c rest hopen ih =>
    have hc : c ≠ ';' := by
      rintro rfl
      exact h.semicolon (by simp)
    have ih := ih h.tail
    rw [CommentFree, Scan.after_cons]
    by_cases hslash : c = '/'
    · -- nothing behind a lone slash can start or close a comment, also once blocks are dropped there
      subst hslash
      cases rest with
      | nil => simp [dropBlocks, Scan.step, Scan.onSlash]
      | cons d rest =>
        have hd : d ≠ '/' := h.head_ne_slash
        have hd' : d ≠ '*' := by
          rintro rfl
          exact hopen rest rfl rfl
        have hkeep : dropBlocks (d :: rest) = d :: dropBlocks rest := by
          rw [dropBlocks]
          rintro r rfl
          exact absurd rfl hd
        rw [hkeep, CommentFree, Scan.after_cons] at ih
        rw [hkeep, Scan.after_cons]
        simpa [Scan.step, Scan.onSlash, Scan.settle, hd, hd'] using ih
    · simpa [Scan.step, Scan.onStar, Scan.settle, hc, hslash, CommentFree] using ih

/-! ### Stripping -/

theorem commentFree_stripComment (t : Text) : CommentFree (stripComment t) :=
  commentFree_dropBlocks (uncut_cut t)

theorem CommentFree.uncut {s : Scan} {t : Text} (h : s.after t ≠ .comment) : Uncut t := by
  induction t generalizing s with
  | nil => exact ⟨by simp, by simp⟩
  | cons c t ih =>
    rw [Scan.after_cons] at h
    have ht := ih h
    have hc : c ≠ ';' := by
      rintro rfl
      exact h (by simpa [Scan.step] using Scan.comment_after t)
    refine ⟨?_, by simpa [Ne.symm hc] using ht.semicolon⟩
    rw [List.infix_cons_iff, not_or]
    refine ⟨?_, ht.slashes⟩
    rintro ⟨r, hr⟩
    simp only [List.cons_append, List.nil_append, List.cons.injEq] at hr
    obtain ⟨rfl, rfl⟩ := hr
    have hcomment : (s.step '/').step '/' = .comment := by
      cases s <;> rfl
    exact h (by rw [Scan.after_cons, hcomment, Scan.comment_after])

theorem afterClose?_of_inBlock_after {p : Char} {t : Text} (h : (Scan.inBlock p).after t ≠ .comment) :
    afterClose? (p :: t) = none := by
  induction t generalizing p with
  | nil => simp [afterClose?]
  | cons c t ih =>
    rw [Scan.after_cons] at h
    by_cases hclose : p = '*' ∧ c = '/'
    · obtain ⟨rfl, rfl⟩ := hclose
      exact absurd (Scan.comment_after t) h
    · have hc : (Scan.inBlock p).step c = Scan.inBlock c := by
        refine Scan.step_inBlock ?_ (fun hp hc => hclose ⟨hp, hc⟩) ?_
        · rintro rfl rfl
          exact h (Scan.comment_after t)
        · rintro rfl
          exact h (by simpa [Scan.step] using Scan.comment_after t)
      rw [hc] at h
      rw [afterClose?.eq_def]
      split
      · next heq =>
        simp only [List.cons.injEq] at heq
        exact absurd ⟨heq.1, heq.2.1⟩ hclose
      · next heq =>
        simp only [List.cons.injEq] at heq
        obtain ⟨rfl, rfl⟩ := heq
        exact ih h
      · rfl

theorem dropBlocks_of_commentFree {t : Text} (h : CommentFree t) : dropBlocks t = t := by
  fun_induction dropBlocks t with
  | case1 => rfl
  | case2 rest after hafter ih =>
    have hb : (Scan.inBlock ' ').after rest ≠ .comment := h
    have := afterClose?_of_inBlock_after hb
    simp [afterClose?, hafter] at this
  | case3 rest hnone => rfl
  | case4 c rest hopen ih =>
    rw [ih]
    rw [CommentFree, Scan.after_cons] at h
    have hc : c ≠ ';' := by
      rintro rfl
      exact h (by simpa [Scan.step] using Scan.comment_after rest)
    by_cases hslash : c = '/'
    · subst hslash
      cases rest with
      | nil => simp [CommentFree]
      | cons d rest =>
        have hd' : d ≠ '*' := by
          rintro rfl
          exact hopen rest rfl rfl
        have hd : d ≠ '/' := by
          rintro rfl
          exact h (by simpa [Scan.step, Scan.onSlash] using Scan.comment_after rest)
        simpa [CommentFree, Scan.step, Scan.onSlash, Scan.settle, hd, hd'] using h
    · simpa [CommentFree, Scan.step, Scan.onStar, Scan.settle, hc, hslash] using h

theorem stripComment_of_commentFree {t : Text} (h : CommentFree t) : stripComment t = t := by
  have hu := CommentFree.uncut h
  have hs : cutAt ['/', '/'] t = t := (cutAt_eq_self_iff (by simp) t).2 hu.slashes
  have hc : cutAt [';'] t = t := by
    rw [cutAt_eq_self_iff (by simp), List.singleton_infix_iff]
    exact hu.semicolon
  rw [stripComment, hs, hc, dropBlocks_of_commentFree h]

end Stepper.Asm
