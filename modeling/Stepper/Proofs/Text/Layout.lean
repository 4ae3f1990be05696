import Mathlib.Data.List.Chain
import Mathlib.Data.List.DropRight
import Stepper.Text.Lines

/-! The layout of a line. Trimming takes the blanks off both ends and nothing else. A tidy text has single
spaces between its words and no blank around them; it is its own words joined again, and squeezing a
trimmed text is the same as joining its words. -/

namespace Stepper.Text

open Unicode

/-- What is asked of every character of a text is decided along the text, not along all characters that exist. -/
instance decidableForallMem {p : Char → Prop} [DecidablePred p] (t : Text) : Decidable (∀ c ∈ t, p c) :=
  List.decidableBAll p t

/-- So is what is asked of the character at an end of it. -/
instance decidableForallMemOption {p : Char → Prop} [DecidablePred p] (o : Option Char) : Decidable (∀ c ∈ o, p c) :=
  Option.decidableForallMem o

/-- A text without a blank. -/
def Solid (t : Text) : Prop := ∀ c ∈ t, isBlank c = false

def AllBlank (t : Text) : Prop := ∀ c ∈ t, isBlank c = true

/-- No blank at either end. -/
structure Trimmed (t : Text) : Prop where
  head : ∀ c ∈ t.head?, isBlank c = false
  last : ∀ c ∈ t.getLast?, isBlank c = false

/-- Words with one space between each two. -/
inductive Tidy : Text → Prop
  | word {w : Text} (ne : w ≠ []) (solid : Solid w) : Tidy w
  | space {w t : Text} (ne : w ≠ []) (solid : Solid w) (rest : Tidy t) : Tidy (w ++ ' ' :: t)

theorem Solid.append {a b : Text} (ha : Solid a) (hb : Solid b) : Solid (a ++ b) := by
  intro c hc
  rcases List.mem_append.1 hc with h | h
  · exact ha c h
  · exact hb c h

theorem isBlank_space : isBlank ' ' = true := by decide

theorem isBlank_of_isLineBreak {c : Char} (h : isLineBreak c = true) : isBlank c = true := by
  simp only [isLineBreak, Bool.or_eq_true, Bool.and_eq_true, decide_eq_true_eq, beq_iff_eq] at h
  simp only [isBlank, inTable_iff, blankTable, List.mem_cons, List.not_mem_nil, or_false, exists_eq_or_imp,
    exists_eq_left]
  omega

/-! ### Trimming -/

theorem trimStart_append_of_blank {a t : Text} (ha : AllBlank a) : trimStart (a ++ t) = trimStart t :=
  List.dropWhile_append_of_pos ha

theorem trimStart_of_head {t : Text} (h : ∀ c ∈ t.head?, isBlank c = false) : trimStart t = t := by
  cases t with
  | nil => rfl
  | cons c rest => simp [trimStart, h c (by simp)]

theorem head_trimStart (t : Text) : ∀ c ∈ (trimStart t).head?, isBlank c = false := by
  induction t with
  | nil => simp [trimStart]
  | cons c rest ih =>
    by_cases hc : isBlank c = true
    · simpa [trimStart, hc] using ih
    · simp [trimStart, hc]

theorem exists_trimStart (t : Text) : ∃ a, AllBlank a ∧ t = a ++ trimStart t :=
  ⟨t.takeWhile isBlank, fun _ hc => List.mem_takeWhile_imp hc, List.takeWhile_append_dropWhile.symm⟩

theorem trimEnd_append_of_blank {t b : Text} (hb : AllBlank b) : trimEnd (t ++ b) = trimEnd t := by
  unfold trimEnd
  rw [List.reverse_append, List.dropWhile_append_of_pos (fun c hc => hb c (List.mem_reverse.1 hc))]

theorem trimEnd_of_last {t : Text} (h : ∀ c ∈ t.getLast?, isBlank c = false) : trimEnd t = t := by
  have := trimStart_of_head (t := t.reverse) (by simpa using h)
  unfold trimStart at this
  rw [trimEnd, this, List.reverse_reverse]

theorem last_trimEnd (t : Text) : ∀ c ∈ (trimEnd t).getLast?, isBlank c = false := by
  have := head_trimStart t.reverse
  simpa [trimEnd, trimStart] using this

theorem exists_trimEnd (t : Text) : ∃ b, AllBlank b ∧ t = trimEnd t ++ b := by
  obtain ⟨a, ha, h⟩ := exists_trimStart t.reverse
  refine ⟨a.reverse, fun c hc => ha c (List.mem_reverse.1 hc), ?_⟩
  have := congrArg List.reverse h
  simpa [trimEnd, trimStart] using this

theorem Trimmed.nil : Trimmed [] := ⟨by simp, by simp⟩

theorem Solid.trimmed {t : Text} (h : Solid t) : Trimmed t :=
  ⟨fun c hc => h c (List.mem_of_mem_head? hc), fun c hc => h c (List.mem_of_getLast? hc)⟩

theorem trim_of_trimmed {t : Text} (h : Trimmed t) : trim t = t := by
  rw [trim, trimStart_of_head h.head, trimEnd_of_last h.last]

theorem trimmed_trim (t : Text) : Trimmed (trim t) := by
  refine ⟨?_, last_trimEnd _⟩
  obtain ⟨b, -, hb⟩ := exists_trimEnd (trimStart t)
  have h := head_trimStart t
  intro c hc
  apply h
  rw [hb]
  change c ∈ (trimEnd (trimStart t)).head? at hc
  cases hs : trimEnd (trimStart t) with
  | nil => simp [hs] at hc
  | cons d rest => simpa [hs] using hc

theorem exists_trim (t : Text) : ∃ a b, AllBlank a ∧ AllBlank b ∧ t = a ++ (trim t ++ b) := by
  obtain ⟨a, ha, h1⟩ := exists_trimStart t
  obtain ⟨b, hb, h2⟩ := exists_trimEnd (trimStart t)
  refine ⟨a, b, ha, hb, ?_⟩
  rw [trim, ← h2, ← h1]

/-- What stands between blanks is what trimming gives. -/
theorem trim_between {a m b : Text} (ha : AllBlank a) (hb : AllBlank b) (hm : Trimmed m) :
    trim (a ++ (m ++ b)) = m := by
  rw [trim, trimStart_append_of_blank ha]
  cases m with
  | nil =>
    rw [List.nil_append, trimStart, List.dropWhile_eq_nil_iff.2 hb]
    rfl
  | cons c rest =>
    rw [trimStart_of_head (by simpa using hm.head), trimEnd_append_of_blank hb, trimEnd_of_last hm.last]

/-! ### Splitting -/

theorem splitWhen_of_none {p : Char → Bool} {w : Text} (hw : ∀ c ∈ w, p c = false) : splitWhen p w = [w] := by
  induction w with
  | nil => rfl
  | cons c rest ih =>
    have hc := hw c (by simp)
    simp [splitWhen, hc, ih fun d hd => hw d (by simp [hd])]

theorem splitWhen_append_sep {p : Char → Bool} {w t : Text} {c : Char} (hw : ∀ d ∈ w, p d = false)
    (hc : p c = true) : splitWhen p (w ++ c :: t) = w :: splitWhen p t := by
  induction w with
  | nil => simp [splitWhen, hc]
  | cons d rest ih =>
    have hd := hw d (by simp)
    simp [splitWhen, hd, ih fun e he => hw e (by simp [he])]

theorem words_cons_of_blank {c : Char} (hc : isBlank c = true) (t : Text) : words (c :: t) = words t := by
  simp [words, splitWhen, hc]

theorem words_of_solid {w : Text} (ne : w ≠ []) (hw : Solid w) : words w = [w] := by
  simp [words, splitWhen_of_none hw, ne]

theorem words_append_blank {w t : Text} {c : Char} (ne : w ≠ []) (hw : Solid w) (hc : isBlank c = true) :
    words (w ++ c :: t) = w :: words t := by
  simp [words, splitWhen_append_sep hw hc, ne]

theorem words_trimStart (t : Text) : words (trimStart t) = words t := by
  induction t with
  | nil => rfl
  | cons c rest ih =>
    by_cases hc : isBlank c = true
    · rw [words_cons_of_blank hc, ← ih]
      simp [trimStart, hc]
    · simp [trimStart, hc]

theorem solid_of_mem_words {t w : Text} (h : w ∈ words t) : w ≠ [] ∧ Solid w := by
  obtain ⟨hs, ne⟩ := List.mem_filter.1 h
  exact ⟨by simpa using ne, not_of_mem_splitWhen hs⟩

theorem unwords_cons {w : Text} {ws : List Text} (h : ws ≠ []) : unwords (w :: ws) = w ++ ' ' :: unwords ws := by
  cases ws with
  | nil => exact absurd rfl h
  | cons v vs => simp [unwords, List.intercalate, List.intersperse]

/-! ### Tidy texts -/

theorem Tidy.ne_nil {t : Text} (h : Tidy t) : t ≠ [] := by
  cases h with
  | word ne _ => exact ne
  | space ne _ _ => simp

theorem Tidy.trimmed {t : Text} (h : Tidy t) : Trimmed t := by
  induction h with
  | word _ solid => exact solid.trimmed
  | @space w t ne solid rest ih =>
    refine ⟨?_, ?_⟩
    · cases w with
      | nil => exact absurd rfl ne
      | cons c w => simpa using solid.trimmed.head
    · have hl : (w ++ ' ' :: t).getLast? = t.getLast? := by
        rw [List.getLast?_append_cons, List.getLast?_cons_of_ne_nil rest.ne_nil]
      rw [hl]
      exact ih.last

theorem isChain_of_solid {w : Text} (hw : Solid w) : w.IsChain fun c d => isBlank c = true → isBlank d = false := by
  refine List.Pairwise.isChain (List.pairwise_of_forall_mem_list fun c hc _ _ hb => ?_)
  simp [hw c hc] at hb

/-- Blanks stand alone in a tidy text. -/
theorem Tidy.isChain {t : Text} (h : Tidy t) : t.IsChain fun c d => isBlank c = true → isBlank d = false := by
  induction h with
  | word _ solid => exact isChain_of_solid solid
  | space _ solid rest ih =>
    refine (isChain_of_solid solid).append (ih.cons fun d hd _ => rest.trimmed.head d hd) fun c hc _ _ hb => ?_
    simp [solid c (List.mem_of_getLast? hc)] at hb

/-- A tidy text stays tidy with a solid text in front of it. -/
theorem Tidy.append_left {v t : Text} (hv : Solid v) (h : Tidy t) : Tidy (v ++ t) := by
  cases h with
  | word ne solid => exact .word (by simp [ne]) (hv.append solid)
  | space ne solid rest =>
    rw [← List.append_assoc]
    exact .space (by simp [ne]) (hv.append solid) rest

theorem Tidy.words_ne_nil {t : Text} (h : Tidy t) : words t ≠ [] := by
  cases h with
  | word ne solid => simp [words_of_solid ne solid]
  | space ne solid _ => simp [words_append_blank ne solid isBlank_space]

theorem Tidy.unwords_words {t : Text} (h : Tidy t) : unwords (words t) = t := by
  induction h with
  | word ne solid => rw [words_of_solid ne solid]; simp [unwords, List.intercalate]
  | space ne solid rest ih =>
    rw [words_append_blank ne solid isBlank_space, unwords_cons rest.words_ne_nil, ih]

theorem tidy_unwords {ws : List Text} (h : ws ≠ []) (hw : ∀ w ∈ ws, w ≠ [] ∧ Solid w) : Tidy (unwords ws) := by
  induction ws with
  | nil => exact absurd rfl h
  | cons w rest ih =>
    obtain ⟨ne, solid⟩ := hw w (by simp)
    by_cases hr : rest = []
    · subst hr
      simpa [unwords, List.intercalate] using Tidy.word ne solid
    · rw [unwords_cons hr]
      exact .space ne solid (ih hr fun v hv => hw v (by simp [hv]))

theorem squeeze_of_solid_append {w : Text} (hw : Solid w) (t : Text) : squeeze (w ++ t) = w ++ squeeze t := by
  induction w with
  | nil => rfl
  | cons c rest ih =>
    have hc := hw c (by simp)
    rw [List.cons_append, squeeze.eq_def]
    simp [hc, ih fun d hd => hw d (by simp [hd])]

theorem squeeze_cons_of_blank {b : Char} (hb : isBlank b = true) (t : Text) :
    squeeze (b :: t) = ' ' :: squeeze (trimStart t) := by
  induction t generalizing b with
  | nil => simp [squeeze, hb, trimStart]
  | cons c rest ih =>
    rw [squeeze]
    by_cases hc : isBlank c = true
    · simp only [hb, hc, if_true]
      rw [ih hc]
      simp [trimStart, hc]
    · simp [hb, hc, trimStart]

/-- A text that is not empty and starts with no blank is a word, or a word with a blank and the rest behind it. -/
theorem exists_word {t : Text} (ne : t ≠ []) (h : ∀ c ∈ t.head?, isBlank c = false) :
    ∃ w, w ≠ [] ∧ Solid w ∧ (t = w ∨ ∃ b r, isBlank b = true ∧ t = w ++ b :: r) := by
  have hsplit := List.takeWhile_append_dropWhile (p := fun c => !isBlank c) (l := t)
  refine ⟨t.takeWhile (!isBlank ·), ?_, ?_, ?_⟩
  · cases t with
    | nil => exact absurd rfl ne
    | cons c rest => simp [h c (by simp)]
  · intro c hc
    simpa using List.mem_takeWhile_imp hc
  · cases hd : t.dropWhile (!isBlank ·) with
    | nil => exact .inl (by simpa [hd] using hsplit.symm)
    | cons b r =>
      refine .inr ⟨b, r, ?_, by rw [hd] at hsplit; exact hsplit.symm⟩
      have := List.head?_dropWhile_not (fun c => !isBlank c) t
      simpa [hd] using this

theorem squeeze_of_trimmed {t : Text} (h : Trimmed t) (ne : t ≠ []) :
    words t ≠ [] ∧ squeeze t = unwords (words t) := by
  induction hn : t.length using Nat.strong_induction_on generalizing t with
  | _ n ih =>
    obtain ⟨w, wne, solid, rfl | ⟨b, r, hb, rfl⟩⟩ := exists_word ne h.head
    · have hs := squeeze_of_solid_append solid []
      rw [words_of_solid wne solid]
      simp_all [squeeze, unwords, List.intercalate]
    · -- the last character is behind the blank, so something is left when the blanks are gone
      obtain ⟨a, ha, hr⟩ := exists_trimStart r
      have hlast : r ≠ [] → (w ++ b :: r).getLast? = r.getLast? := by
        intro hne
        rw [List.getLast?_append_cons, List.getLast?_cons_of_ne_nil hne]
      have tne : trimStart r ≠ [] := by
        intro h0
        rw [h0, List.append_nil] at hr
        have : ∃ c ∈ (w ++ b :: r).getLast?, isBlank c = true := by
          by_cases hne : r = []
          · subst hne
            exact ⟨b, by simp, hb⟩
          · refine ⟨r.getLast hne, by rw [hlast hne, List.getLast?_eq_some_getLast hne]; rfl, ?_⟩
            exact ha _ (hr ▸ List.getLast_mem hne)
        obtain ⟨c, hc, hblank⟩ := this
        simp [h.last c hc] at hblank
      have htrim : Trimmed (trimStart r) := by
        refine ⟨head_trimStart r, fun c hc => h.last c ?_⟩
        have hne : r ≠ [] := by rintro rfl; exact tne rfl
        rw [hlast hne, hr, List.getLast?_append_of_ne_nil _ tne]
        exact hc
      have hlen : (trimStart r).length < n := by
        have := (List.dropWhile_sublist isBlank (l := r)).length_le
        simp only [List.length_append, List.length_cons] at hn
        simp only [trimStart]
        omega
      obtain ⟨hw, hs⟩ := ih _ hlen htrim tne rfl
      rw [squeeze_of_solid_append solid, squeeze_cons_of_blank hb, hs, words_append_blank wne solid hb,
        ← words_trimStart r, unwords_cons hw]
      exact ⟨by simp, rfl⟩

theorem tidy_squeeze {t : Text} (h : Trimmed t) (ne : t ≠ []) : Tidy (squeeze t) := by
  obtain ⟨hne, hs⟩ := squeeze_of_trimmed h ne
  rw [hs]
  exact tidy_unwords hne fun _ => solid_of_mem_words

/-! ### Single spaces -/

theorem squeeze_of_solid {w : Text} (h : Solid w) : squeeze w = w := by
  have := squeeze_of_solid_append h []
  simpa [squeeze] using this

theorem squeeze_cons_of_not_blank {c : Char} (hc : isBlank c = false) (t : Text) : squeeze (c :: t) = c :: squeeze t :=
  squeeze_of_solid_append (w := [c]) (by simpa [Solid] using hc) t

/-- Blanks in front become one space. -/
theorem squeeze_blank_append {a : Text} (ne : a ≠ []) (ha : AllBlank a) (t : Text) :
    squeeze (a ++ t) = ' ' :: squeeze (trimStart t) := by
  cases a with
  | nil => exact absurd rfl ne
  | cons b a =>
    rw [List.cons_append, squeeze_cons_of_blank (ha b (by simp)), trimStart_append_of_blank fun c hc => ha c (by simp [hc])]

theorem squeeze_eq_nil_iff (t : Text) : squeeze t = [] ↔ t = [] := by
  cases t with
  | nil => simp [squeeze]
  | cons c t =>
    by_cases hc : isBlank c = true
    · simp [squeeze_cons_of_blank hc]
    · simp [squeeze_cons_of_not_blank (by simpa using hc)]

/-- A text is empty, or it starts with blanks that are no longer there in the rest, or with another character. -/
theorem blank_induction {P : Text → Prop} (nil : P [])
    (blank : ∀ a t, a ≠ [] → AllBlank a → trimStart t = t → P t → P (a ++ t))
    (solid : ∀ c t, isBlank c = false → P t → P (c :: t)) (t : Text) : P t := by
  induction hn : t.length using Nat.strong_induction_on generalizing t with
  | _ n ih =>
    cases t with
    | nil => exact nil
    | cons c t =>
      by_cases hc : isBlank c = true
      · obtain ⟨a, ha, hsplit⟩ := exists_trimStart t
        have hlen := congrArg List.length hsplit
        rw [hsplit, ← List.cons_append]
        refine blank (c :: a) _ (by simp) ?_ (trimStart_of_head (head_trimStart t)) (ih _ ?_ _ rfl)
        · exact List.forall_mem_cons.2 ⟨hc, ha⟩
        · simp only [List.length_append, List.length_cons] at hlen hn
          omega
      · exact solid c t (by simpa using hc) (ih _ (by simp [← hn]) t rfl)

theorem head?_squeeze {t : Text} (h : ∀ c ∈ t.head?, isBlank c = false) : (squeeze t).head? = t.head? := by
  cases t with
  | nil => rfl
  | cons c t => rw [squeeze_cons_of_not_blank (h c (by simp))]; rfl

theorem allBlank_squeeze {b : Text} (hb : AllBlank b) : AllBlank (squeeze b) := by
  by_cases ne : b = []
  · simp [ne, squeeze, AllBlank]
  · have := squeeze_blank_append ne hb []
    simp [List.append_nil] at this
    simp [this, trimStart, squeeze, AllBlank, isBlank_space]

theorem exists_squeeze_append_blank {b : Text} (hb : AllBlank b) (t : Text) :
    ∃ b', AllBlank b' ∧ squeeze (t ++ b) = squeeze t ++ b' := by
  induction t using blank_induction with
  | nil => exact ⟨squeeze b, allBlank_squeeze hb, rfl⟩
  | blank a t ne ha htrim ih =>
    rw [List.append_assoc, squeeze_blank_append ne ha, squeeze_blank_append ne ha, htrim]
    by_cases hnil : t = []
    · have hblank : trimStart b = [] := List.dropWhile_eq_nil_iff.2 hb
      exact ⟨[], by simp [AllBlank], by simp [hnil, hblank, squeeze]⟩
    · obtain ⟨b', hb', heq⟩ := ih
      have hhead : trimStart (t ++ b) = t ++ b := by
        apply trimStart_of_head
        intro c hc
        rw [List.head?_append_of_ne_nil _ hnil] at hc
        exact head_trimStart t c (htrim.symm ▸ hc)
      exact ⟨b', hb', by rw [hhead, heq, List.cons_append]⟩
  | solid c t hc ih =>
    obtain ⟨b', hb', heq⟩ := ih
    refine ⟨b', hb', ?_⟩
    rw [List.cons_append, squeeze_cons_of_not_blank hc, squeeze_cons_of_not_blank hc, heq, List.cons_append]

theorem trim_squeeze (t : Text) : trim (squeeze t) = squeeze (trim t) := by
  obtain ⟨a, b, ha, hb, ht⟩ := exists_trim t
  have hm := trimmed_trim t
  by_cases hnil : trim t = []
  · rw [hnil, List.nil_append] at ht
    have hblank : AllBlank t := by
      rw [ht]
      intro c hc
      rcases List.mem_append.1 hc with hc | hc
      · exact ha c hc
      · exact hb c hc
    have := trim_between (allBlank_squeeze hblank) (b := []) (by simp [AllBlank]) Trimmed.nil
    simpa [hnil, squeeze] using this
  · obtain ⟨b', hb', heq⟩ := exists_squeeze_append_blank hb (trim t)
    have htidy := (tidy_squeeze hm hnil).trimmed
    have hhead : trimStart (trim t ++ b) = trim t ++ b := by
      apply trimStart_of_head
      intro c hc
      rw [List.head?_append_of_ne_nil _ hnil] at hc
      exact hm.head c hc
    conv_lhs => rw [ht]
    by_cases ne : a = []
    · have := trim_between (a := []) (by simp [AllBlank]) hb' htidy
      rw [ne, List.nil_append, heq]
      exact this
    · rw [squeeze_blank_append ne ha, hhead, heq]
      exact trim_between (a := [' ']) (by simp [AllBlank, isBlank_space]) hb' htidy

/-! ### Lines -/

theorem Tidy.eq_space {t : Text} (h : Tidy t) {c : Char} (hc : c ∈ t) (hb : isBlank c = true) : c = ' ' := by
  induction h with
  | word _ solid => simp [solid c hc] at hb
  | space _ solid _ ih =>
    rcases List.mem_append.1 hc with hc | hc
    · simp [solid c hc] at hb
    · rcases List.mem_cons.1 hc with rfl | hc
      · rfl
      · exact ih hc

theorem Tidy.not_isLineBreak {t : Text} (h : Tidy t) {c : Char} (hc : c ∈ t) : isLineBreak c = false := by
  by_contra hb
  have hb' : isLineBreak c = true := by simpa using hb
  have := h.eq_space hc (isBlank_of_isLineBreak hb')
  rw [this] at hb'
  exact absurd hb' (by decide)

theorem not_isLineBreak_of_mem_lines {t line : Text} (h : line ∈ lines t) :
    ∀ c ∈ line, isLineBreak c = false := by
  fun_induction lines t generalizing line with
  | case1 => simp at h
  | case2 rest ih =>
    rcases List.mem_cons.1 h with rfl | h
    · simp
    · exact ih h
  | case3 c rest _ hc ih =>
    rcases List.mem_cons.1 h with rfl | h
    · simp
    · exact ih h
  | case4 c rest _ hc hr ih => simp_all
  | case5 c rest _ hc first more hr ih =>
    rcases List.mem_cons.1 h with rfl | h
    · intro d hd
      rcases List.mem_cons.1 hd with rfl | hd
      · simpa using hc
      · exact ih (hr ▸ List.mem_cons_self) d hd
    · exact ih (hr ▸ List.mem_cons_of_mem _ h)

theorem lines_append_break {line : Text} (h : ∀ c ∈ line, isLineBreak c = false) (t : Text) :
    lines (line ++ '\n' :: t) = line :: lines t := by
  induction line with
  | nil =>
    have : isLineBreak '\n' = true := by decide
    simp [lines, this]
  | cons c rest ih =>
    have hc := h c (by simp)
    have hcr : c ≠ '\r' := by rintro rfl; simp [isLineBreak] at hc
    rw [List.cons_append, lines]
    · simp [hc, ih fun d hd => h d (by simp [hd])]
    · intro r h1
      exact absurd h1 hcr

theorem unlines_cons (line : Text) (ls : List Text) : unlines (line :: ls) = line ++ '\n' :: unlines ls := by
  simp [unlines]

theorem unlines_append (a b : List Text) : unlines (a ++ b) = unlines a ++ unlines b :=
  List.flatMap_append

/-- The lines of a text that was put together from lines. -/
theorem lines_unlines {ls : List Text} (h : ∀ line ∈ ls, ∀ c ∈ line, isLineBreak c = false) :
    lines (unlines ls) = ls := by
  induction ls with
  | nil => rfl
  | cons line rest ih =>
    rw [unlines_cons, lines_append_break (h line (by simp)), ih fun l hl => h l (by simp [hl])]

theorem splitOn_join {sep : Char} {rows : List Text} (ne : rows ≠ []) (h : ∀ row ∈ rows, sep ∉ row) :
    splitOn sep (join [sep] rows) = rows := by
  induction rows with
  | nil => exact absurd rfl ne
  | cons row rows ih =>
    have hrow : ∀ c ∈ row, (c == sep) = false := by
      intro c hc
      rw [beq_eq_false_iff_ne]
      rintro rfl
      exact h row (by simp) hc
    by_cases hlast : rows = []
    · subst hlast
      rw [join, List.intercalate_singleton]
      exact splitWhen_of_none hrow
    · have hjoin : join [sep] (row :: rows) = row ++ sep :: join [sep] rows := by
        rw [join, List.intercalate_cons_of_ne_nil hlast, List.append_assoc]
        rfl
      rw [hjoin]
      refine (splitWhen_append_sep hrow (by simp)).trans ?_
      exact congrArg _ (ih hlast fun row' hrow' => h row' (by simp [hrow']))

theorem append_cons_inj {c : Char} {a a' t t' : Text} (ha : c ∉ a) (ha' : c ∉ a') (h : a ++ c :: t = a' ++ c :: t') :
    a = a' ∧ t = t' := by
  induction a generalizing a' with
  | nil =>
    cases a' with
    | nil => exact ⟨rfl, (List.cons.inj h).2⟩
    | cons d a' => exact absurd (List.cons.inj h).1 (by rintro rfl; simp at ha')
  | cons d a ih =>
    rw [List.mem_cons, not_or] at ha
    cases a' with
    | nil => exact absurd (List.cons.inj h).1.symm ha.1
    | cons d' a' =>
      obtain ⟨rfl, htail⟩ := List.cons.inj h
      rw [List.mem_cons, not_or] at ha'
      obtain ⟨rfl, rfl⟩ := ih ha.2 ha'.2 htail
      exact ⟨rfl, rfl⟩

end Stepper.Text
