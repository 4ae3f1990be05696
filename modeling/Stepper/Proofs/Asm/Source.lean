import Stepper.Proofs.Asm.Normal

/-! What a plain source is read as. Its labels have names that are spelled as names, and its instructions are
trimmed, not empty and free of comments. -/

namespace Stepper.Asm

open Numeral Text Unicode

theorem ascii_of_isNameChar {c : Char} (h : isNameChar c = true) : c.toNat < 128 := by
  simp only [isNameChar, isNameStart, Bool.or_eq_true, beq_iff_eq] at h
  rcases h with (((h | rfl) | rfl) | rfl) | h
  · rcases Bool.or_eq_true_iff.1 h with h | h
    · exact ascii_of_isUpper h
    · exact ascii_of_isLower h
  · decide
  · decide
  · decide
  · exact ascii_of_isDigit h

theorem isNameChar_of_isNameStart {c : Char} (h : isNameStart c = true) : isNameChar c = true := by
  simp [isNameChar, h]

theorem isNameChar_toLower {c : Char} (h : isNameChar c = true) : isNameChar c.toLower = true :=
  of_ascii (P := fun c => isNameChar c = true → isNameChar c.toLower = true) (by decide +kernel)
    (ascii_of_isNameChar h) h

theorem isNameStart_toLower {c : Char} (h : isNameStart c = true) : isNameStart c.toLower = true :=
  of_ascii (P := fun c => isNameStart c = true → isNameStart c.toLower = true) (by decide +kernel)
    (ascii_of_isNameChar (isNameChar_of_isNameStart h)) h

namespace Source

theorem LabelName.lower_eq {name : Text} (h : LabelName name) : lower name = name.map Char.toLower :=
  lower_of_ascii fun c hc => ascii_of_isNameChar (h.chars c hc)

theorem LabelName.lower {name : Text} (h : LabelName name) : LabelName (lower name) := by
  rw [h.lower_eq]
  refine ⟨?_, fun c hc => ?_⟩
  · obtain ⟨c, rest, rfl, hc⟩ := h.start
    exact ⟨c.toLower, rest.map Char.toLower, rfl, isNameStart_toLower hc⟩
  · obtain ⟨d, hd, rfl⟩ := List.mem_map.1 hc
    exact isNameChar_toLower (h.chars d hd)

/-- A labelled line is a name, blanks, a colon and what is trimmed to the rest. -/
theorem labelled?_eq_some {line name rest : Text} (h : labelled? line = some (name, rest)) :
    LabelName name ∧ ∃ gap behind, AllBlank gap ∧ line = name ++ (gap ++ ':' :: behind) ∧ rest = trim behind := by
  cases line with
  | nil => simp [labelled?] at h
  | cons c t =>
    rw [labelled?] at h
    split at h
    · next hc =>
      split at h
      · next behind hb =>
        obtain ⟨rfl, rfl⟩ := Prod.mk.inj (Option.some.inj h)
        refine ⟨⟨⟨c, _, rfl, hc⟩, ?_⟩, ?_⟩
        · intro d hd
          rcases List.mem_cons.1 hd with rfl | hd
          · exact isNameChar_of_isNameStart hc
          · exact List.mem_takeWhile_imp hd
        · obtain ⟨gap, hgap, hsplit⟩ := exists_trimStart (t.dropWhile isNameChar)
          rw [hb] at hsplit
          refine ⟨gap, behind, hgap, ?_, rfl⟩
          rw [← hsplit, List.cons_append, List.takeWhile_append_dropWhile]
      · simp at h
    · simp at h

theorem LabelName.unmarked {name : Text} (h : LabelName name) : Unmarked name := h.stopless.unmarked

theorem commentFree_labelled {line name rest : Text} (h : labelled? line = some (name, rest))
    (hline : CommentFree line) : CommentFree rest := by
  obtain ⟨hname, gap, behind, hgap, rfl, rfl⟩ := labelled?_eq_some h
  have hfront : Unmarked (name ++ (gap ++ [':'])) := by
    refine hname.unmarked.append ((unmarked_of_allBlank hgap).append ?_)
    unfold Unmarked
    decide
  have heq : name ++ (gap ++ ':' :: behind) = name ++ (gap ++ [':']) ++ behind := by simp
  rw [heq, commentFree_append_iff hfront] at hline
  exact hline.trim

/-- A line as `cleanLines` leaves it. -/
structure Clean (line : Text) : Prop where
  trimmed : Trimmed line
  commentFree : CommentFree line

theorem clean_of_mem_cleanLines {source line : Text} (h : line ∈ cleanLines source) : Clean line := by
  obtain ⟨raw, -, rfl⟩ := List.mem_map.1 h
  exact ⟨trimmed_trim _, (commentFree_stripComment raw).trim⟩

/-- What is kept while the lines of a source are added one by one. -/
structure Sound (s : Source) : Prop where
  named : Named s.labels
  clean : ∀ i ∈ s.instructions, i ≠ [] ∧ Clean i
  index : ∀ l ∈ s.labels, l.2 ≤ s.instructions.length

theorem mem_assign {α : Type} {name : Text} {value : α} {labels : List (Text × α)} {l : Text × α}
    (h : l ∈ assign name value labels) : l = (name, value) ∨ l ∈ labels := by
  induction labels with
  | nil => exact .inl (by simpa [assign] using h)
  | cons m labels ih =>
    obtain ⟨n, v⟩ := m
    rw [assign] at h
    split at h
    · next hn =>
      subst hn
      exact (List.mem_cons.1 h).imp_right fun h => by simp [h]
    · rcases List.mem_cons.1 h with rfl | h
      · exact .inr (by simp)
      · exact (ih h).imp_right fun h => by simp [h]

theorem Sound.push {s : Source} (h : Sound s) {line : Text} (hl : Clean line) (ne : line ≠ []) :
    Sound { s with instructions := s.instructions ++ [line] } where
  named := h.named
  clean i hi := by
    rcases List.mem_append.1 hi with hi | hi
    · exact h.clean i hi
    · obtain rfl := List.mem_singleton.1 hi
      exact ⟨ne, hl⟩
  index l hl := by
    have := h.index l hl
    simp only [List.length_append]
    omega

theorem Sound.label {s : Source} (h : Sound s) {name : Text} (hn : LabelName name) :
    Sound { s with labels := assign name s.instructions.length s.labels } where
  named l hl := by
    rcases mem_assign hl with rfl | hl
    · exact hn
    · exact h.named l hl
  clean := h.clean
  index l hl := by
    rcases mem_assign hl with rfl | hl
    · exact le_rfl
    · exact h.index l hl

theorem Sound.addLine {s : Source} (h : Sound s) {line : Text} (hl : Clean line) : Sound (s.addLine line) := by
  unfold Source.addLine
  split
  · exact h
  · next hne =>
    have ne : line ≠ [] := by
      rintro rfl
      simp at hne
    cases hlab : labelled? line with
    | none => exact h.push hl ne
    | some p =>
      obtain ⟨name, rest⟩ := p
      obtain ⟨hname, _, behind, -, -, hrest⟩ := labelled?_eq_some hlab
      have hlabel := h.label hname.lower
      dsimp only
      split
      · exact hlabel
      · next hr =>
        exact hlabel.push ⟨hrest ▸ trimmed_trim _, commentFree_labelled hlab hl.commentFree⟩ (by simpa using hr)

theorem sound_read (source : Text) : Sound (Source.read source) := by
  have hrun : ∀ (ls : List Text) (s : Source), (∀ l ∈ ls, Clean l) → Sound s → Sound (ls.foldl Source.addLine s) := by
    intro ls
    induction ls with
    | nil => exact fun _ _ hs => hs
    | cons l ls ih => exact fun s hls hs => ih _ (fun m hm => hls m (by simp [hm])) (hs.addLine (hls l (by simp)))
  exact hrun _ _ (fun l => clean_of_mem_cleanLines) ⟨by simp [Named], by simp, by simp⟩

end Source

end Stepper.Asm
