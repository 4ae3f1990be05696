import Stepper.Proofs.Files.Utf8
import Stepper.Proofs.Text.Layout

/-! Lines of a text that is put together, where no carriage return is left. What is added at the end of a line changes
that line and no other. -/

namespace Stepper.Text

/-- What stands behind the last line break. -/
def lastLine (t : Text) : Text :=
  t.rtakeWhile (!isLineBreak ·)

/-- No character is left on the line. -/
def EndsLine (t : Text) : Prop := ∀ c ∈ t.head?, isLineBreak c = true

/-- A new line starts behind the text. -/
def Ended (t : Text) : Prop := ∀ c ∈ t.getLast?, isLineBreak c = true

theorem exists_lastLine (t : Text) : ∃ front, Ended front ∧ t = front ++ lastLine t := by
  refine ⟨t.rdropWhile (!isLineBreak ·), ?_, ?_⟩
  · intro c hc
    by_contra hbreak
    obtain ⟨ne, rfl⟩ := List.mem_getLast?_eq_getLast hc
    exact List.rdropWhile_last_not _ _ ne (by simpa using hbreak)
  · have := congrArg List.reverse (List.takeWhile_append_dropWhile (p := (!isLineBreak ·)) (l := t.reverse))
    rw [List.reverse_append, List.reverse_reverse] at this
    exact this.symm

theorem lastLine_unbroken (t : Text) : ∀ c ∈ lastLine t, isLineBreak c = false := by
  intro c hc
  simpa using List.mem_rtakeWhile_imp hc

theorem lines_cons_break {c : Char} (hc : isLineBreak c = true) (hreturn : c ≠ '\r') (t : Text) :
    lines (c :: t) = [] :: lines t := by
  rw [lines]
  · simp [hc]
  · exact fun _ h => absurd h hreturn

theorem lines_cons {c : Char} (hc : isLineBreak c = false) (t : Text) :
    lines (c :: t) = match lines t with
      | [] => [[c]]
      | line :: more => (c :: line) :: more := by
  rw [lines]
  · exact if_neg (by simp [hc])
  · rintro _ rfl
    exact absurd hc (by decide)

theorem lines_ne_nil {t : Text} (ne : t ≠ []) : lines t ≠ [] := by
  fun_cases lines t with
  | case1 => exact absurd rfl ne
  | case2 => simp
  | case3 => simp
  | case4 => simp
  | case5 => simp

theorem lines_append_of_ended {front : Text} (hfront : Ended front) (hreturn : '\r' ∉ front) (t : Text) :
    lines (front ++ t) = lines front ++ lines t := by
  induction front with
  | nil => rfl
  | cons c front ih =>
    have hc : c ≠ '\r' := fun h => hreturn (by simp [h])
    by_cases ne : front = []
    · subst ne
      have hbreak := hfront c (by simp)
      rw [List.singleton_append, lines_cons_break hbreak hc, lines_cons_break hbreak hc]
      rfl
    · have hrest : Ended front := by
        intro d hd
        exact hfront d (by rwa [List.getLast?_cons_of_ne_nil ne])
      have hsplit := ih hrest fun h => hreturn (by simp [h])
      rw [List.cons_append]
      cases hbreak : isLineBreak c with
      | true => rw [lines_cons_break hbreak hc, lines_cons_break hbreak hc, hsplit, List.cons_append]
      | false =>
        rw [lines_cons hbreak, lines_cons hbreak, hsplit]
        cases hlines : lines front with
        | nil => exact absurd hlines (lines_ne_nil ne)
        | cons line more => rfl

theorem lines_append_of_endsLine {line : Text} (hline : ∀ c ∈ line, isLineBreak c = false) {t : Text} (ht : EndsLine t)
    (hreturn : '\r' ∉ t) : lines (line ++ t) = if line ++ t = [] then [] else line :: lines t.tail := by
  induction line with
  | nil =>
    cases t with
    | nil => rfl
    | cons c t => exact lines_cons_break (ht c (by simp)) (fun h => hreturn (by simp [h])) t
  | cons c line ih =>
    have hfull : ¬ c :: (line ++ t) = [] := by simp
    rw [List.cons_append, lines_cons (hline c (by simp)), ih fun d hd => hline d (by simp [hd]), if_neg hfull]
    by_cases hnil : line ++ t = []
    · obtain ⟨rfl, rfl⟩ := List.append_eq_nil_iff.1 hnil
      rfl
    · rw [if_neg hnil]

/-- Characters that are added at the end of a line. If there was no line there is one then. -/
theorem lines_insert {a c b : Text} (hreturn : '\r' ∉ a ++ b) (hc : ∀ x ∈ c, isLineBreak x = false) (ne : c ≠ [])
    (hb : EndsLine b) : ∃ before behind, lines (a ++ (c ++ b)) = before ++ (lastLine a ++ c) :: behind ∧
      (lines (a ++ b) = before ++ lastLine a :: behind ∨ lastLine a = [] ∧ lines (a ++ b) = before ++ behind) := by
  obtain ⟨front, hfront, ha⟩ := exists_lastLine a
  have hline := lastLine_unbroken a
  generalize lastLine a = line at ha hline ⊢
  subst ha
  have hfrontReturn : '\r' ∉ front := fun h => hreturn (by simp [h])
  have hbReturn : '\r' ∉ b := fun h => hreturn (by simp [h])
  have hadded : ∀ x ∈ line ++ c, isLineBreak x = false := by
    intro x hx
    rcases List.mem_append.1 hx with hx | hx
    · exact hline x hx
    · exact hc x hx
  refine ⟨lines front, lines b.tail, ?_, ?_⟩
  · rw [List.append_assoc, lines_append_of_ended hfront hfrontReturn, ← List.append_assoc line,
      lines_append_of_endsLine hadded hb hbReturn, if_neg (by simp [ne])]
  · rw [List.append_assoc, lines_append_of_ended hfront hfrontReturn, lines_append_of_endsLine hline hb hbReturn]
    split_ifs with hnil
    · obtain ⟨rfl, rfl⟩ := List.append_eq_nil_iff.1 hnil
      exact .inr ⟨rfl, rfl⟩
    · exact .inl rfl

theorem notMem_withLineFeeds (t : Text) : '\r' ∉ withLineFeeds t := by
  fun_induction withLineFeeds t with
  | case1 => simp
  | case2 rest ih => simpa using ih
  | case3 rest _ ih => simpa using ih
  | case4 c rest _ hc ih => simpa using ⟨fun h => hc h.symm, ih⟩

end Stepper.Text

namespace Stepper.Utf8

theorem notMem_readText {bytes : List UInt8} {t : Text} (h : readText bytes = .ok t) : '\r' ∉ t := by
  rw [readText] at h
  cases hdecode : decode bytes with
  | error cause => simp [hdecode] at h
  | ok text =>
    rw [hdecode, Except.map_ok] at h
    obtain rfl := Except.ok.inj h
    exact Text.notMem_withLineFeeds text

end Stepper.Utf8
