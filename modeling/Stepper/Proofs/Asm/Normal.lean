import Stepper.Proofs.Asm.Spelling

/-! The normal form of an instruction. Whatever a line of a source looks like, the instruction that stands in
the listing for it is tidy and holds no comment: no change of spelling closes a block comment, joins two
slashes or leaves a blank at an end. -/

namespace Stepper.Asm

open Numeral Text Unicode

theorem scan_after_squeeze (s : Scan) (t : Text) : s.after (squeeze t) = s.after t := by
  have hspace : ∀ s : Scan, s.step ' ' = s.settle := Scan.step_of_unmarked (by decide)
  have hblank : ∀ {c}, isBlank c = true → ∀ s : Scan, s.step c = s.settle := fun hc =>
    Scan.step_of_unmarked (unmarked_of_allBlank (t := [_]) (by simpa [AllBlank] using hc) _ (by simp))
  fun_induction squeeze t generalizing s with
  | case1 => rfl
  | case2 c hc d rest hd ih =>
    rw [ih, Scan.after_cons, Scan.after_cons, Scan.after_cons, hblank hd, hblank hc, hblank hd, Scan.settle_settle]
  | case3 c hc d rest hd ih => rw [Scan.after_cons, Scan.after_cons, hspace, hblank hc, ih]
  | case4 c hc => rw [Scan.after_cons, Scan.after_cons, hspace, hblank hc]
  | case5 c rest hc ih => rw [Scan.after_cons, Scan.after_cons, ih]

theorem solid_of_negatable? {t : Text} (h : (negatable? t).isSome = true) : t ≠ [] ∧ Stopless t := by
  have hmag : ∀ {negative u}, (magnitude? negative u).isSome = true → u ≠ [] ∧ Stopless u := by
    intro negative u hu
    unfold magnitude? at hu
    split at hu
    · next d rest =>
      have hall : (d :: rest).all isHexDigit = true := by
        by_contra hno
        rw [if_neg hno] at hu
        simp at hu
      refine ⟨by simp, ?_⟩
      intro c hc
      simp only [List.mem_cons] at hc
      rcases hc with rfl | rfl | hc
      · decide
      · decide
      · exact isStop_of_isHexDigit (List.all_eq_true.1 hall c (by simpa using hc))
    · simp at hu
    · next _ _ hne =>
      have hall : u.all isDigit = true := by
        by_contra hno
        rw [if_neg hno] at hu
        simp at hu
      exact ⟨hne, fun c hc => isStop_of_isDigit (List.all_eq_true.1 hall c hc)⟩
  unfold negatable? at h
  split at h
  · next rest =>
    obtain ⟨-, hs⟩ := hmag h
    refine ⟨by simp, fun c hc => ?_⟩
    rcases List.mem_cons.1 hc with rfl | hc
    · decide
    · exact hs c hc
  · exact hmag h

namespace Source

/-! ### Commas -/

theorem tightenCommas_cons_of_ne {c : Char} (hc : c ≠ ',') (t : Text) :
    tightenCommas (c :: t) = c :: tightenCommas t := by
  rw [tightenCommas]
  exact hc

theorem tightenCommas_comma (t : Text) : tightenCommas (',' :: t) = ',' :: tightenCommas (trimStart t) := by
  rw [tightenCommas]

theorem scan_after_tightenCommas (s : Scan) (t : Text) : s.after (tightenCommas t) = s.after t := by
  have hcomma : ∀ s : Scan, s.step ',' = s.settle := Scan.step_of_unmarked (by decide)
  fun_induction tightenCommas t generalizing s with
  | case1 => rfl
  | case2 rest ih =>
    obtain ⟨a, ha, hrest⟩ := exists_trimStart rest
    have hskip : s.settle.after rest = s.settle.after (trimStart rest) := by
      conv_lhs => rw [hrest]
      rw [Scan.after_append]
      by_cases ne : a = []
      · rw [ne, Scan.after_nil]
      · rw [Scan.after_of_unmarked ne (unmarked_of_allBlank ha), Scan.settle_settle]
    rw [Scan.after_cons, Scan.after_cons, hcomma, ih, hskip]
  | case3 c rest hc ih => rw [Scan.after_cons, Scan.after_cons, ih]

/-- Behind a word only the blanks after a comma at its end are dropped. -/
theorem tightenCommas_solid_append {w : Text} (ne : w ≠ []) (hw : Solid w) (t : Text) :
    tightenCommas (w ++ t) = w ++ tightenCommas (if w.getLast? = some ',' then trimStart t else t) := by
  induction w with
  | nil => exact absurd rfl ne
  | cons c w ih =>
    by_cases hnil : w = []
    · subst hnil
      by_cases hc : c = ','
      · subst hc
        simp [tightenCommas_comma]
      · simp [tightenCommas_cons_of_ne hc, hc]
    · have hw' : Solid w := fun d hd => hw d (by simp [hd])
      have hlast : (c :: w).getLast? = w.getLast? := List.getLast?_cons_of_ne_nil hnil
      have hhead : trimStart (w ++ t) = w ++ t := by
        apply trimStart_of_head
        intro d hd
        rw [List.head?_append_of_ne_nil _ hnil] at hd
        exact hw' d (List.mem_of_mem_head? hd)
      rw [hlast, List.cons_append]
      by_cases hc : c = ','
      · subst hc
        rw [tightenCommas_comma, hhead, ih hnil hw', List.cons_append]
      · rw [tightenCommas_cons_of_ne hc, ih hnil hw', List.cons_append]

theorem tightenCommas_solid {w : Text} (hw : Solid w) : tightenCommas w = w := by
  by_cases ne : w = []
  · rw [ne, tightenCommas]
  · have := tightenCommas_solid_append ne hw []
    simpa [trimStart, tightenCommas] using this

theorem tidy_tightenCommas {t : Text} (h : Tidy t) : Tidy (tightenCommas t) := by
  induction h with
  | word ne solid =>
    rw [tightenCommas_solid solid]
    exact .word ne solid
  | @space w t ne solid rest ih =>
    have htrim : trimStart (' ' :: t) = t := by
      rw [trimStart, List.dropWhile_cons_of_pos isBlank_space]
      exact trimStart_of_head rest.trimmed.head
    rw [tightenCommas_solid_append ne solid, htrim]
    split
    · exact ih.append_left solid
    · rw [tightenCommas_cons_of_ne (by decide)]
      exact .space ne solid ih

/-! ### Moves of immediates -/

/-- A move of an immediate and the addition that is written for it. -/
structure MoveOf (target value line out : Text) : Prop where
  target_ne : target ≠ []
  target_plain : ∀ c ∈ target, isBlank c = false ∧ c ≠ ','
  value_isSome : (negatable? value).isSome = true
  line_eq : line = ['m', 'o', 'v', ' '] ++ (target ++ ([',', '#'] ++ value))
  out_eq : out = ['a', 'd', 'd', ' '] ++ (target ++ ([',', 'x', 'z', 'r', ',', '#'] ++ value))

theorem exists_moveOf {line out : Text} (h : moveImmediate? line = some out) :
    ∃ target value, MoveOf target value line out := by
  unfold moveImmediate? at h
  split at h
  · next operands =>
    dsimp only at h
    split at h
    · next _ _ value htarget hrest =>
      split at h
      · next hv =>
        obtain rfl := Option.some.inj h
        have hsplit := List.takeWhile_append_dropWhile (p := fun c => !(isBlank c || c == ',')) (l := operands)
        rw [hrest] at hsplit
        refine ⟨operands.takeWhile (fun c => !(isBlank c || c == ',')), value, ?_, ?_, hv, ?_, ?_⟩
        · rw [htarget]
          simp
        · intro c hc
          have := List.mem_takeWhile_imp hc
          simpa using this
        · conv_lhs => rw [← hsplit]
          rfl
        · simp
      · simp at h
    · simp at h
  · simp at h

theorem MoveOf.tidy {target value line out : Text} (m : MoveOf target value line out) : Tidy out := by
  have hadd : Solid ['a', 'd', 'd'] := by
    unfold Solid
    decide
  have hxzr : Solid [',', 'x', 'z', 'r', ',', '#'] := by
    unfold Solid
    decide
  have hsolid : Solid (target ++ ([',', 'x', 'z', 'r', ',', '#'] ++ value)) :=
    Solid.append (fun c hc => (m.target_plain c hc).1) (hxzr.append (solid_of_negatable? m.value_isSome).2.solid)
  rw [m.out_eq]
  exact .space (w := ['a', 'd', 'd']) (by simp) hadd (.word (by simp) hsolid)

theorem MoveOf.scan_after {target value line out : Text} (m : MoveOf target value line out) :
    Scan.code.after out = Scan.code.after line := by
  have hcomma : Unmarked [',', '#'] := by
    unfold Unmarked
    decide
  have hzero : Unmarked [',', 'x', 'z', 'r', ',', '#'] := by
    unfold Unmarked
    decide
  rw [m.out_eq, m.line_eq]
  simp only [Scan.after_append]
  rw [Scan.after_of_unmarked (by simp) hcomma, Scan.after_of_unmarked (by simp) hzero]
  rfl

/-! ### Lines -/

/-- A line in lower case, with single spaces, no blanks behind commas and the names of registers that the
machine knows. -/
def spelled (line : Text) : Text :=
  renameRegisters false (lower (tightenCommas (squeeze line)))

theorem piecewise_rename_lower : Piecewise fun t => renameRegisters false (lower t) :=
  piecewise_renameRegisters.comp piecewise_lower

theorem normalize_cases (line : Text) :
    ("swi".toList <+: spelled line ∧ normalize line = "nop".toList) ∨
    (¬ "swi".toList <+: spelled line ∧ moveImmediate? (spelled line) = some (normalize line)) ∨
    (¬ "swi".toList <+: spelled line ∧ moveImmediate? (spelled line) = none ∧ normalize line = spelled line) := by
  have hdef : normalize line = (moveImmediate? (if "swi".toList.isPrefixOf (spelled line) then "nop" else spelled line)).getD
      (if "swi".toList.isPrefixOf (spelled line) then "nop" else spelled line) := rfl
  rw [hdef]
  by_cases hswi : "swi".toList <+: spelled line
  · rw [if_pos (List.isPrefixOf_iff_prefix.2 hswi)]
    exact .inl ⟨hswi, by decide⟩
  · rw [if_neg fun h => hswi (List.isPrefixOf_iff_prefix.1 h)]
    cases hm : moveImmediate? (spelled line) with
    | none => exact .inr (.inr ⟨hswi, by simp⟩)
    | some out => exact .inr (.inl ⟨hswi, by simp⟩)

theorem tidy_spelled {line : Text} (h : Trimmed line) (ne : line ≠ []) : Tidy (spelled line) :=
  piecewise_rename_lower.tidy (tidy_tightenCommas (tidy_squeeze h ne))

theorem tidy_normalize {line : Text} (h : Trimmed line) (ne : line ≠ []) : Tidy (normalize line) := by
  rcases normalize_cases line with ⟨-, hn⟩ | ⟨-, hm⟩ | ⟨-, -, hn⟩
  · rw [hn]
    refine .word (by decide) ?_
    unfold Solid
    decide
  · obtain ⟨target, value, m⟩ := exists_moveOf hm
    exact m.tidy
  · rw [hn]
    exact tidy_spelled h ne

theorem scan_after_spelled (line : Text) : Scan.code.after (spelled line) = Scan.code.after line := by
  rw [spelled, piecewise_rename_lower.scan_after, scan_after_tightenCommas, scan_after_squeeze]

theorem commentFree_normalize {line : Text} (h : CommentFree line) : CommentFree (normalize line) := by
  rcases normalize_cases line with ⟨-, hn⟩ | ⟨-, hm⟩ | ⟨-, -, hn⟩
  · rw [hn, CommentFree]
    decide
  · obtain ⟨target, value, m⟩ := exists_moveOf hm
    rw [CommentFree, m.scan_after, scan_after_spelled]
    exact h
  · rw [hn, CommentFree, scan_after_spelled]
    exact h

/-! ### Instructions of a listing -/

theorem takeWhile_ne_space_of_solid {w : Text} (hw : Solid w) : w.takeWhile (· != ' ') = w := by
  rw [List.takeWhile_eq_self_iff]
  intro c hc
  have : c ≠ ' ' := by
    rintro rfl
    exact absurd (hw _ hc) (by decide)
  simpa using this

theorem instructionText_of_solid {base : Int} {labels : List (Text × Nat)} {line : Text}
    (hf : Piecewise (resolve base labels)) (hw : Solid (normalize line)) :
    instructionText base labels line = normalize line := by
  have htake := takeWhile_ne_space_of_solid hw
  have hdrop : (normalize line).dropWhile (· != ' ') = [] := by
    have := List.takeWhile_append_dropWhile (p := (· != ' ')) (l := normalize line)
    rw [htake] at this
    simpa using this
  simp [instructionText, htake, hdrop, hf.nil]

theorem instructionText_of_space {base : Int} {labels : List (Text × Nat)} {line w t : Text}
    (hf : Piecewise (resolve base labels)) (hw : Solid w) (ht : t ≠ []) (hn : normalize line = w ++ ' ' :: t) :
    instructionText base labels line = w ++ ' ' :: resolve base labels t := by
  have htake : (normalize line).takeWhile (· != ' ') = w := by
    rw [hn, takeWhile_append_cons (by decide), takeWhile_ne_space_of_solid hw]
  have hdrop : (normalize line).dropWhile (· != ' ') = ' ' :: t := by
    have := List.takeWhile_append_dropWhile (p := (· != ' ')) (l := normalize line)
    rw [htake, hn] at this
    exact List.append_cancel_left (by rw [hn]; exact this)
  have hne : resolve base labels t ≠ [] := fun h => ht ((hf.eq_nil_iff t).1 h)
  simp [instructionText, htake, hdrop, hne]

/-- A tidy text is a word, or a word with a space and a tidy rest behind it. -/
theorem exists_of_tidy {t : Text} (h : Tidy t) : Solid t ∨ ∃ w r, w ≠ [] ∧ Solid w ∧ Tidy r ∧ t = w ++ ' ' :: r := by
  cases h with
  | word _ solid => exact .inl solid
  | @space w r ne solid rest => exact .inr ⟨w, r, ne, solid, rest, rfl⟩

theorem tidy_instructionText {base : Int} {labels : List (Text × Nat)} {line : Text}
    (hf : Piecewise (resolve base labels)) (h : Tidy (normalize line)) :
    Tidy (instructionText base labels line) := by
  rcases exists_of_tidy h with hs | ⟨w, r, ne, hw, hr, hn⟩
  · rw [instructionText_of_solid hf hs]
    exact h
  · rw [instructionText_of_space hf hw hr.ne_nil hn]
    exact .space ne hw (hf.tidy hr)

theorem commentFree_instructionText {base : Int} {labels : List (Text × Nat)} {line : Text}
    (hf : Piecewise (resolve base labels)) (ht : Tidy (normalize line)) (h : CommentFree (normalize line)) :
    CommentFree (instructionText base labels line) := by
  rcases exists_of_tidy ht with hs | ⟨w, r, ne, hw, hr, hn⟩
  · rw [instructionText_of_solid hf hs]
    exact h
  · rw [instructionText_of_space hf hw hr.ne_nil hn, CommentFree, Scan.after_append, Scan.after_cons, hf.scan_after,
      ← Scan.after_cons, ← Scan.after_append, ← hn]
    exact h

end Source

end Stepper.Asm
