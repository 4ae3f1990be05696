import Stepper.Proofs.Asm.Normal

/-! Operands of a line that is spelled anew. The commas that part operands stay where they are, so the
operands of the new line are those of the old one, each of them spelled anew. -/

namespace Stepper.Text

open Unicode Asm

/-- A text in front of the first of some pieces. -/
def glue (a : Text) : List Text → List Text
  | [] => [a]
  | p :: ps => (a ++ p) :: ps

theorem glue_ne_nil (a : Text) (ps : List Text) : glue a ps ≠ [] := by
  cases ps <;> simp [glue]

theorem glue_glue (a b : Text) (ps : List Text) : glue a (glue b ps) = glue (a ++ b) ps := by
  cases ps <;> simp [glue]

theorem glue_nil {ps : List Text} (h : ps ≠ []) : glue [] ps = ps := by
  cases ps with
  | nil => exact absurd rfl h
  | cons p ps => rfl

theorem splitWhen_cons_of_not {p : Char → Bool} {c : Char} (hc : p c = false) (t : Text) :
    splitWhen p (c :: t) = glue [c] (splitWhen p t) := by
  rw [splitWhen, if_neg (by simp [hc])]
  cases h : splitWhen p t with
  | nil => rfl
  | cons q qs => rfl

theorem splitWhen_append {p : Char → Bool} {a : Text} (ha : ∀ c ∈ a, p c = false) (t : Text) :
    splitWhen p (a ++ t) = glue a (splitWhen p t) := by
  induction a with
  | nil => rw [List.nil_append, glue_nil (splitWhen_ne_nil p t)]
  | cons c a ih =>
    rw [List.cons_append, splitWhen_cons_of_not (ha c (by simp)), ih fun d hd => ha d (by simp [hd]), glue_glue]
    rfl

theorem Piecewise.map_glue {f : Text → Text} (hf : Piecewise f) {a : Text} {c : Char} (hc : isStop c = true)
    (ps : List Text) : (glue (a ++ [c]) ps).map f = glue (f a ++ [c]) (ps.map f) := by
  cases ps with
  | nil =>
    have := hf.stop a [] hc
    rw [hf.nil] at this
    simpa [glue] using this
  | cons p ps =>
    have := hf.stop a p hc
    simpa [glue] using this

/-- Pieces between separators that are stops are turned one by one. -/
theorem Piecewise.splitWhen {f : Text → Text} (hf : Piecewise f) {p : Char → Bool} (hp : ∀ c, p c = true → isStop c = true)
    (t : Text) : splitWhen p (f t) = (splitWhen p t).map f := by
  have hnone : ∀ {a : Text}, Stopless a → ∀ c ∈ a, p c = false := by
    intro a ha c hc
    by_contra h
    have := hp c (by simpa using h)
    simp [ha c hc] at this
  induction t using stop_induction with
  | last a ha =>
    rw [splitWhen_of_none (hnone (hf.stopless ha)), splitWhen_of_none (hnone ha)]
    rfl
  | stop a c b ha hc ih =>
    rw [hf.stop a b hc, splitWhen_append (hnone (hf.stopless ha)), splitWhen_append (hnone ha)]
    by_cases h : p c = true
    · simp [Text.splitWhen, h, glue, ih]
    · rw [splitWhen_cons_of_not (by simpa using h), splitWhen_cons_of_not (by simpa using h), glue_glue, glue_glue, ih,
        hf.map_glue hc]

end Stepper.Text

namespace Stepper.Asm

open Text Unicode

/-! ### Commas outside brackets -/

/-- The brackets that are open behind a character. -/
def turn (depth : Nat) (c : Char) : Nat :=
  if c = '[' then depth + 1 else if c = ']' then depth - 1 else depth

theorem splitOutside_comma (t : Text) : splitOutside 0 (',' :: t) = [] :: splitOutside 0 t := by
  simp [splitOutside]

theorem splitOutside_cons {depth : Nat} {c : Char} (h : ¬ (c = ',' ∧ depth = 0)) (t : Text) :
    splitOutside depth (c :: t) = glue [c] (splitOutside (turn depth c) t) := by
  have hsep : ¬ (c = ',' ∧ turn depth c = 0) := by
    rintro ⟨rfl, h0⟩
    exact h ⟨rfl, h0⟩
  rw [splitOutside]
  change (if c = ',' ∧ turn depth c = 0 then _ else _) = _
  rw [if_neg hsep]
  change (match splitOutside (turn depth c) t with | [] => [[c]] | piece :: pieces => (c :: piece) :: pieces) = _
  cases splitOutside (turn depth c) t <;> rfl

theorem splitOutside_ne_nil (depth : Nat) (t : Text) : splitOutside depth t ≠ [] := by
  cases t with
  | nil => simp [splitOutside]
  | cons c t =>
    by_cases h : c = ',' ∧ depth = 0
    · obtain ⟨rfl, rfl⟩ := h
      simp [splitOutside_comma]
    · rw [splitOutside_cons h]
      exact glue_ne_nil _ _

/-- Characters that are no comma and no bracket. -/
def Unparted (t : Text) : Prop := ∀ c ∈ t, c ≠ ',' ∧ c ≠ '[' ∧ c ≠ ']'

theorem unparted_of_stopless {t : Text} (h : Stopless t) : Unparted t := by
  have hne : ∀ d, isStop d = true → ∀ c ∈ t, c ≠ d := by
    rintro d hd c hc rfl
    simp [h c hc] at hd
  exact fun c hc => ⟨hne ',' (by decide) c hc, hne '[' (by decide) c hc, hne ']' (by decide) c hc⟩

theorem unparted_of_allBlank {t : Text} (h : AllBlank t) : Unparted t := by
  have hne : ∀ d, isBlank d = false → ∀ c ∈ t, c ≠ d := by
    rintro d hd c hc rfl
    simp [h c hc] at hd
  exact fun c hc => ⟨hne ',' (by decide) c hc, hne '[' (by decide) c hc, hne ']' (by decide) c hc⟩

/-- Without a comma nothing is parted, whatever brackets are opened and closed. -/
theorem splitOutside_append_of_commaless {a : Text} (ha : ∀ c ∈ a, c ≠ ',') (depth : Nat) (t : Text) :
    splitOutside depth (a ++ t) = glue a (splitOutside (a.foldl turn depth) t) := by
  induction a generalizing depth with
  | nil => rw [List.nil_append, List.foldl_nil, glue_nil (splitOutside_ne_nil depth t)]
  | cons c a ih =>
    have hsep : ¬ (c = ',' ∧ depth = 0) := fun h => ha c (by simp) h.1
    rw [List.cons_append, splitOutside_cons hsep, ih fun d hd => ha d (by simp [hd]), glue_glue, List.foldl_cons]
    rfl

theorem turn_of_unparted {a : Text} (ha : Unparted a) (depth : Nat) : a.foldl turn depth = depth := by
  induction a with
  | nil => rfl
  | cons c a ih =>
    obtain ⟨-, hopen, hclose⟩ := ha c (by simp)
    have hturn : turn depth c = depth := by simp [turn, hopen, hclose]
    rw [List.foldl_cons, hturn, ih fun d hd => ha d (by simp [hd])]

theorem splitOutside_append {a : Text} (ha : Unparted a) (depth : Nat) (t : Text) :
    splitOutside depth (a ++ t) = glue a (splitOutside depth t) := by
  rw [splitOutside_append_of_commaless (fun c hc => (ha c hc).1), turn_of_unparted ha]

theorem splitOutside_of_unparted {a : Text} (ha : Unparted a) (depth : Nat) : splitOutside depth a = [a] := by
  have := splitOutside_append ha depth []
  simpa [splitOutside, glue] using this

theorem splitOutside_piecewise {f : Text → Text} (hf : Piecewise f) (depth : Nat) (t : Text) :
    splitOutside depth (f t) = (splitOutside depth t).map f := by
  induction t using stop_induction generalizing depth with
  | last a ha =>
    rw [splitOutside_of_unparted (unparted_of_stopless (hf.stopless ha)), splitOutside_of_unparted (unparted_of_stopless ha)]
    rfl
  | stop a c b ha hc ih =>
    rw [hf.stop a b hc, splitOutside_append (unparted_of_stopless (hf.stopless ha)),
      splitOutside_append (unparted_of_stopless ha)]
    by_cases h : c = ',' ∧ depth = 0
    · obtain ⟨rfl, rfl⟩ := h
      simp [splitOutside_comma, glue, ih]
    · rw [splitOutside_cons h, splitOutside_cons h, glue_glue, glue_glue, ih, hf.map_glue hc]

/-! ### Blanks behind commas -/

/-- Pieces with no blanks at the start of any but the first. -/
def tightened (g : Text → Text) : List Text → List Text
  | [] => []
  | p :: ps => g p :: ps.map fun q => g (trimStart q)

open Source

theorem tightened_glue_blank {g : Text → Text} {a : Text} (ha : AllBlank a) {p : Text} {ps : List Text}
    (hp : trimStart p = p) (h : g [] = []) :
    tightened g ([] :: glue a (p :: ps)) = [] :: tightened g (p :: ps) := by
  simp [tightened, glue, h, trimStart_append_of_blank ha, hp]

/-- What a text with no blank in front starts with has none either. -/
theorem trimStart_of_prefix {p t : Text} (h : p <+: t) (ht : trimStart t = t) : trimStart p = p := by
  cases p with
  | nil => rfl
  | cons c p =>
    obtain ⟨r, rfl⟩ := h
    have := head_trimStart (c :: p ++ r)
    rw [ht] at this
    exact trimStart_of_head (by simpa using this)

theorem prefix_of_splitOutside {depth : Nat} {t p : Text} {ps : List Text} (h : splitOutside depth t = p :: ps) :
    p <+: t := by
  induction t generalizing depth p ps with
  | nil =>
    simp only [splitOutside, List.cons.injEq] at h
    simp [← h.1]
  | cons c t ih =>
    by_cases hsep : c = ',' ∧ depth = 0
    · obtain ⟨rfl, rfl⟩ := hsep
      rw [splitOutside_comma] at h
      simp [← (List.cons.inj h).1]
    · obtain ⟨q, qs, hq⟩ := List.exists_cons_of_ne_nil (splitOutside_ne_nil (turn depth c) t)
      rw [splitOutside_cons hsep, hq] at h
      rw [← (List.cons.inj h).1]
      simpa using ih hq

theorem prefix_of_splitOn {t p : Text} {ps : List Text} (h : splitOn ',' t = p :: ps) : p <+: t := by
  induction t generalizing p ps with
  | nil =>
    simp only [splitOn, Text.splitWhen, List.cons.injEq] at h
    simp [← h.1]
  | cons c t ih =>
    by_cases hsep : c = ','
    · subst hsep
      simp only [splitOn, Text.splitWhen, beq_self_eq_true, if_true, List.cons.injEq] at h
      simp [← h.1]
    · obtain ⟨q, qs, hq⟩ := List.exists_cons_of_ne_nil (splitWhen_ne_nil (· == ',') t)
      rw [splitOn, splitWhen_cons_of_not (by simpa using hsep), hq] at h
      rw [← (List.cons.inj h).1]
      simpa using ih hq

theorem splitOutside_tightenCommas (depth : Nat) (t : Text) :
    splitOutside depth (tightenCommas t) = tightened tightenCommas (splitOutside depth t) := by
  fun_induction tightenCommas t generalizing depth with
  | case1 => simp [splitOutside, tightened, tightenCommas]
  | case2 rest ih =>
    obtain ⟨a, ha, hrest⟩ := exists_trimStart rest
    obtain ⟨q, qs, hq⟩ := List.exists_cons_of_ne_nil (splitOutside_ne_nil depth (trimStart rest))
    have hhead := trimStart_of_prefix (prefix_of_splitOutside hq) (trimStart_of_head (head_trimStart rest))
    have hsplit : splitOutside depth rest = glue a (q :: qs) := by
      conv_lhs => rw [hrest]
      rw [splitOutside_append (unparted_of_allBlank ha), hq]
    by_cases hd : depth = 0
    · subst hd
      rw [splitOutside_comma, splitOutside_comma, ih, hsplit, hq,
        tightened_glue_blank ha hhead (by simp [tightenCommas])]
    · have hsep : ¬ (',' = ',' ∧ depth = 0) := fun h => hd h.2
      have hturn : turn depth ',' = depth := rfl
      rw [splitOutside_cons hsep, splitOutside_cons hsep, hturn, ih, hsplit, hq]
      simp [glue, tightened, tightenCommas_comma, trimStart_append_of_blank ha, hhead]
  | case3 c rest hc ih =>
    have hsep : ¬ (c = ',' ∧ depth = 0) := fun h => hc h.1
    rw [splitOutside_cons hsep, splitOutside_cons hsep, ih]
    cases splitOutside (turn depth c) rest with
    | nil => simp [glue, tightened, tightenCommas_cons_of_ne hc, tightenCommas]
    | cons p ps => simp [glue, tightened, tightenCommas_cons_of_ne hc]

theorem splitOn_tightenCommas (t : Text) : splitOn ',' (tightenCommas t) = tightened id (splitOn ',' t) := by
  fun_induction tightenCommas t with
  | case1 => simp [splitOn, Text.splitWhen, tightened]
  | case2 rest ih =>
    obtain ⟨a, ha, hrest⟩ := exists_trimStart rest
    obtain ⟨q, qs, hq⟩ := List.exists_cons_of_ne_nil (splitWhen_ne_nil (· == ',') (trimStart rest))
    have hhead := trimStart_of_prefix (prefix_of_splitOn hq) (trimStart_of_head (head_trimStart rest))
    have hsplit : splitOn ',' rest = glue a (q :: qs) := by
      conv_lhs => rw [hrest]
      rw [splitOn, splitWhen_append (fun c hc => by simpa using (unparted_of_allBlank ha c hc).1), hq]
    have hcomma : ∀ u, splitOn ',' (',' :: u) = [] :: splitOn ',' u := fun u => by simp [splitOn, Text.splitWhen]
    rw [hcomma, hcomma, ih, hsplit, splitOn, hq, tightened_glue_blank ha hhead rfl]
  | case3 c rest hc ih =>
    have hcons : ∀ u, splitOn ',' (c :: u) = glue [c] (splitOn ',' u) := fun u =>
      splitWhen_cons_of_not (by simpa using hc) u
    obtain ⟨q, qs, hq⟩ := List.exists_cons_of_ne_nil (splitWhen_ne_nil (· == ',') rest)
    rw [hcons, hcons, ih, splitOn, hq]
    simp [glue, tightened]

theorem tightenCommas_of_unparted {a : Text} (ha : Unparted a) (t : Text) :
    tightenCommas (a ++ t) = a ++ tightenCommas t := by
  induction a with
  | nil => rfl
  | cons c a ih =>
    rw [List.cons_append, tightenCommas_cons_of_ne (ha c (by simp)).1, ih fun d hd => ha d (by simp [hd]), List.cons_append]

theorem tightenCommas_eq_nil_iff (t : Text) : tightenCommas t = [] ↔ t = [] := by
  cases t with
  | nil => simp [tightenCommas]
  | cons c t =>
    by_cases hc : c = ','
    · simp [hc, tightenCommas_comma]
    · simp [tightenCommas_cons_of_ne hc]

theorem head?_tightenCommas (t : Text) : (tightenCommas t).head? = t.head? := by
  cases t with
  | nil => simp [tightenCommas]
  | cons c t =>
    by_cases hc : c = ','
    · simp [hc, tightenCommas_comma]
    · simp [tightenCommas_cons_of_ne hc]

/-- Blanks at the end go with the comma in front of them or stay. -/
theorem exists_tightenCommas_append_blank {b : Text} (hb : AllBlank b) (t : Text) :
    ∃ b', AllBlank b' ∧ tightenCommas (t ++ b) = tightenCommas t ++ b' := by
  fun_induction tightenCommas t with
  | case1 =>
    refine ⟨b, hb, ?_⟩
    simpa [tightenCommas] using tightenCommas_of_unparted (unparted_of_allBlank hb) []
  | case2 rest ih =>
    by_cases hnil : trimStart rest = []
    · have hall : AllBlank (rest ++ b) := by
        have hrest : AllBlank rest := List.dropWhile_eq_nil_iff.1 hnil
        intro c hc
        rcases List.mem_append.1 hc with hc | hc
        · exact hrest c hc
        · exact hb c hc
      have htrim : trimStart (rest ++ b) = [] := List.dropWhile_eq_nil_iff.2 hall
      exact ⟨[], by simp [AllBlank], by simp [tightenCommas_comma, htrim, hnil]⟩
    · obtain ⟨a, ha, hrest⟩ := exists_trimStart rest
      have htrim : trimStart (rest ++ b) = trimStart rest ++ b := by
        conv_lhs => rw [hrest]
        rw [List.append_assoc, trimStart_append_of_blank ha]
        apply trimStart_of_head
        intro c hc
        rw [List.head?_append_of_ne_nil _ hnil] at hc
        exact head_trimStart rest c hc
      obtain ⟨b', hb', heq⟩ := ih
      exact ⟨b', hb', by rw [List.cons_append, tightenCommas_comma, htrim, heq, List.cons_append]⟩
  | case3 c rest hc ih =>
    obtain ⟨b', hb', heq⟩ := ih
    exact ⟨b', hb', by rw [List.cons_append, tightenCommas_cons_of_ne hc, heq, List.cons_append]⟩

theorem trimStart_append_last {c : Char} (hc : isBlank c = false) (t : Text) :
    trimStart (t ++ [c]) = trimStart t ++ [c] := by
  obtain ⟨a, ha, hsplit⟩ := exists_trimStart t
  conv_lhs => rw [hsplit]
  rw [List.append_assoc, trimStart_append_of_blank ha]
  apply trimStart_of_head
  intro d hd
  cases ht : trimStart t with
  | nil =>
    rw [ht] at hd
    obtain rfl : c = d := by simpa using hd
    exact hc
  | cons e rest =>
    rw [ht] at hd
    obtain rfl : e = d := by simpa using hd
    exact head_trimStart t e (by rw [ht]; rfl)

/-- A last character that is no comma and no blank stays. -/
theorem tightenCommas_append_last {c : Char} (hc : isBlank c = false) (hne : c ≠ ',') (t : Text) :
    tightenCommas (t ++ [c]) = tightenCommas t ++ [c] := by
  fun_induction tightenCommas t with
  | case1 => simp [tightenCommas_cons_of_ne hne, tightenCommas]
  | case2 rest ih => rw [List.cons_append, tightenCommas_comma, trimStart_append_last hc, ih, List.cons_append]
  | case3 d rest hd ih => rw [List.cons_append, tightenCommas_cons_of_ne hd, ih, List.cons_append]

theorem last_tightenCommas {t : Text} (h : ∀ c ∈ t.getLast?, isBlank c = false) :
    ∀ c ∈ (tightenCommas t).getLast?, isBlank c = false := by
  fun_induction tightenCommas t with
  | case1 => simp
  | case2 rest ih =>
    by_cases hnil : trimStart rest = []
    · rw [hnil]
      simp only [tightenCommas, List.getLast?_singleton, Option.mem_some_iff]
      rintro c rfl
      decide
    · have hne : tightenCommas (trimStart rest) ≠ [] := fun h0 => hnil ((tightenCommas_eq_nil_iff _).1 h0)
      rw [List.getLast?_cons_of_ne_nil hne]
      apply ih
      obtain ⟨a, -, hrest⟩ := exists_trimStart rest
      have hne' : rest ≠ [] := by
        rintro rfl
        exact hnil rfl
      rw [List.getLast?_cons_of_ne_nil hne', hrest, List.getLast?_append_of_ne_nil _ hnil] at h
      exact h
  | case3 c rest hc ih =>
    by_cases hnil : rest = []
    · subst hnil
      simpa [tightenCommas] using h
    · have hne : tightenCommas rest ≠ [] := fun h0 => hnil ((tightenCommas_eq_nil_iff _).1 h0)
      rw [List.getLast?_cons_of_ne_nil hne]
      rw [List.getLast?_cons_of_ne_nil hnil] at h
      exact ih h

theorem trim_tightenCommas (t : Text) : trim (tightenCommas t) = tightenCommas (trim t) := by
  obtain ⟨a, b, ha, hb, ht⟩ := exists_trim t
  obtain ⟨b', hb', heq⟩ := exists_tightenCommas_append_blank hb (trim t)
  have hm : Trimmed (tightenCommas (trim t)) :=
    ⟨by rw [head?_tightenCommas]; exact (trimmed_trim t).head, last_tightenCommas (trimmed_trim t).last⟩
  conv_lhs => rw [ht]
  rw [tightenCommas_of_unparted (unparted_of_allBlank ha), heq, trim_between ha hb' hm]

theorem trim_trimStart (t : Text) : trim (trimStart t) = trim t := by
  rw [trim, trimStart_of_head (head_trimStart t), trim]

/-! ### Single spaces -/

/-- Commas keep their places while the blanks between them are squeezed. -/
theorem splitOutside_squeeze (depth : Nat) (t : Text) :
    splitOutside depth (squeeze t) = (splitOutside depth t).map squeeze := by
  induction t using blank_induction generalizing depth with
  | nil => rfl
  | blank a t ne ha htrim ih =>
    obtain ⟨p, ps, hsplit⟩ := List.exists_cons_of_ne_nil (splitOutside_ne_nil depth t)
    have hp := trimStart_of_prefix (prefix_of_splitOutside hsplit) htrim
    have hspace : AllBlank [' '] := by simp [AllBlank, isBlank_space]
    rw [squeeze_blank_append ne ha, htrim, splitOutside_append (unparted_of_allBlank ha), hsplit]
    have := splitOutside_append (unparted_of_allBlank hspace) depth (squeeze t)
    rw [List.singleton_append] at this
    rw [this, ih, hsplit]
    simp [glue, squeeze_blank_append ne ha, hp]
  | solid c t hc ih =>
    rw [squeeze_cons_of_not_blank hc]
    by_cases hsep : c = ',' ∧ depth = 0
    · obtain ⟨rfl, rfl⟩ := hsep
      rw [splitOutside_comma, splitOutside_comma, ih]
      rfl
    · rw [splitOutside_cons hsep, splitOutside_cons hsep, ih]
      obtain ⟨p, ps, hsplit⟩ := List.exists_cons_of_ne_nil (splitOutside_ne_nil (turn depth c) t)
      simp [hsplit, glue, squeeze_cons_of_not_blank hc]

/-! ### Operands -/

theorem filter_map_of_nil_iff {f : Text → Text} (h : ∀ t, f t = [] ↔ t = []) (ts : List Text) :
    (ts.map f).filter (!·.isEmpty) = (ts.filter (!·.isEmpty)).map f := by
  induction ts with
  | nil => rfl
  | cons t ts ih =>
    by_cases ht : t = []
    · simp [ht, (h []).2 rfl, ih]
    · have hft : f t ≠ [] := fun h0 => ht ((h t).1 h0)
      simp [ht, hft, ih]

theorem splitOperands_piecewise {f : Text → Text} (hf : Piecewise f) (t : Text) :
    splitOperands (f t) = (splitOperands t).map f := by
  have hmap : (splitOutside 0 (f t)).map trim = ((splitOutside 0 t).map trim).map f := by
    rw [splitOutside_piecewise hf, List.map_map, List.map_map]
    exact List.map_congr_left fun p _ => (hf.trim p).symm
  rw [splitOperands, hmap, filter_map_of_nil_iff hf.eq_nil_iff, splitOperands]

theorem splitOperands_tightenCommas (t : Text) : splitOperands (tightenCommas t) = (splitOperands t).map tightenCommas := by
  have hmap : (splitOutside 0 (tightenCommas t)).map trim = ((splitOutside 0 t).map trim).map tightenCommas := by
    rw [splitOutside_tightenCommas]
    cases splitOutside 0 t with
    | nil => rfl
    | cons p ps => simp [tightened, trim_tightenCommas, trim_trimStart]
  rw [splitOperands, hmap, filter_map_of_nil_iff tightenCommas_eq_nil_iff, splitOperands]

theorem splitOperands_squeeze (t : Text) : splitOperands (squeeze t) = (splitOperands t).map squeeze := by
  have hmap : (splitOutside 0 (squeeze t)).map trim = ((splitOutside 0 t).map trim).map squeeze := by
    rw [splitOutside_squeeze, List.map_map, List.map_map]
    exact List.map_congr_left fun p _ => trim_squeeze p
  rw [splitOperands, hmap, filter_map_of_nil_iff squeeze_eq_nil_iff, splitOperands]

theorem splitOperands_of_stopless {a : Text} (ne : a ≠ []) (ha : Stopless a) : splitOperands a = [a] := by
  simp [splitOperands, splitOutside_of_unparted (unparted_of_stopless ha), trim_of_trimmed ha.solid.trimmed, ne]

/-- A first operand with all of its brackets closed. -/
theorem splitOperands_comma {a : Text} (ne : a ≠ []) (hs : Solid a) (ha : ∀ c ∈ a, c ≠ ',') (hclosed : a.foldl turn 0 = 0)
    (t : Text) : splitOperands (a ++ ',' :: t) = a :: splitOperands t := by
  rw [splitOperands, splitOutside_append_of_commaless ha, hclosed, splitOutside_comma]
  simp [glue, trim_of_trimmed hs.trimmed, ne, splitOperands]

/-- With a bracket left open what follows belongs to the first operand. -/
theorem closed_of_two_operands {a t : Text} (ha : ∀ c ∈ a, c ≠ ',') (ht : Stopless t)
    (h : (splitOperands (a ++ ',' :: t)).length = 2) : a.foldl turn 0 = 0 := by
  by_contra hopen
  have hsep : ¬ (',' = ',' ∧ a.foldl turn 0 = 0) := fun h => hopen h.2
  rw [splitOperands, splitOutside_append_of_commaless ha, splitOutside_cons hsep,
    splitOutside_of_unparted (unparted_of_stopless ht)] at h
  have hle := List.length_filter_le (fun t : Text => !t.isEmpty) ((glue a (glue [','] [t])).map trim)
  rw [h] at hle
  simp [glue] at hle

/-- The parts between all commas, with the blanks at their ends taken off. -/
theorem trimmed_parts_piecewise {f : Text → Text} (hf : Piecewise f) (t : Text) :
    (splitOn ',' (f t)).map trim = ((splitOn ',' t).map trim).map f := by
  have hcomma : ∀ c, (c == ',') = true → isStop c = true := by
    intro c hc
    rw [eq_of_beq hc]
    exact isStop_comma
  rw [splitOn, hf.splitWhen hcomma, List.map_map, List.map_map, splitOn]
  exact List.map_congr_left fun p _ => (hf.trim p).symm

theorem trimmed_parts_tightenCommas (t : Text) : (splitOn ',' (tightenCommas t)).map trim = (splitOn ',' t).map trim := by
  rw [splitOn_tightenCommas]
  cases splitOn ',' t with
  | nil => rfl
  | cons p ps => simp [tightened, trim_trimStart]

end Stepper.Asm
