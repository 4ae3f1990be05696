import Stepper.Asm.Source
import Stepper.Proofs.Asm.Blocks
import Stepper.Proofs.Text.Lines

/-! Line comments in a source. Blocks are dropped from the whole source before its lines are parted, so a line comment
is left out of what is read if no block of its own goes over the end of its line and no slash in front of it, where
the blocks are gone, becomes part of its mark. -/

namespace Stepper.Asm

open Text Unicode

/-! ### One line -/

theorem cutAt_append_of_occurs {m l : Text} (h : m <:+: l) (t : Text) : cutAt m (l ++ t) = cutAt m l := by
  induction l with
  | nil =>
    obtain rfl := List.infix_nil.1 h
    cases t <;> simp [cutAt]
  | cons c l ih =>
    have hfront : m <+: c :: l ++ t ↔ m <+: c :: l := by
      refine ⟨fun hp => ?_, fun hp => hp.trans (List.prefix_append _ _)⟩
      exact List.prefix_of_prefix_length_le hp (List.prefix_append _ _) h.length_le
    rw [List.cons_append, cutAt, cutAt, ← List.cons_append]
    simp only [List.isPrefixOf_iff_prefix, hfront]
    split_ifs with hp
    · rfl
    · rw [ih ((List.infix_cons_iff.1 h).resolve_left hp)]

/-- A slash at the end of a line that is in no comment; it would become part of a mark that is put behind it. -/
def LooseSlash (line : Text) : Prop :=
  Uncut line ∧ line.getLast? = some '/'

theorem cutAt_slashes_append {line : Text} (h : line.getLast? ≠ some '/') (t : Text) :
    cutAt ['/', '/'] (line ++ '/' :: '/' :: t) = cutAt ['/', '/'] line := by
  induction line with
  | nil => simp [cutAt]
  | cons c line ih =>
    cases line with
    | nil =>
      have hc : c ≠ '/' := by simpa using h
      simp [cutAt, Ne.symm hc]
    | cons d line =>
      rw [List.getLast?_cons_cons] at h
      rw [List.cons_append, cutAt, ih h, cutAt]
      rfl

theorem cutAt_semicolon_append (line t : Text) :
    cutAt [';'] (cutAt ['/', '/'] (line ++ ';' :: t)) = cutAt [';'] (cutAt ['/', '/'] line) := by
  induction line with
  | nil => simp [cutAt]
  | cons c line ih =>
    have hfront : ['/', '/'].isPrefixOf (c :: (line ++ ';' :: t)) = ['/', '/'].isPrefixOf (c :: line) := by
      cases line <;> simp [List.isPrefixOf]
    rw [List.cons_append, cutAt, hfront, cutAt]
    split
    · rfl
    · rw [cutAt, cutAt, ih]
      simp

theorem stripComment_append {line mark : Text} (hmark : mark = ['/', '/'] ∨ mark = [';'])
    (h : mark = ['/', '/'] → ¬ LooseSlash line) (t : Text) : stripComment (line ++ (mark ++ t)) = stripComment line := by
  unfold stripComment
  rcases hmark with rfl | rfl
  · by_cases hcut : ['/', '/'] <:+: line
    · rw [cutAt_append_of_occurs hcut]
    by_cases hlast : line.getLast? = some '/'
    · -- the slash goes with the mark, but a semicolon in front of it cuts it off anyway
      have hsemicolon : ';' ∈ line := by
        by_contra hno
        exact h rfl ⟨⟨hcut, hno⟩, hlast⟩
      obtain ⟨line, rfl⟩ := List.getLast?_eq_some_iff.1 hlast
      have hbefore : ['/', '/'] <:+: line → False := fun hi => hcut (hi.trans (List.prefix_append _ _).isInfix)
      have hlast' : line.getLast? ≠ some '/' := by
        intro hslash
        obtain ⟨line, rfl⟩ := List.getLast?_eq_some_iff.1 hslash
        exact hcut ⟨line, [], by simp⟩
      have hsemicolon' : [';'] <:+: line := by
        rw [List.singleton_infix_iff]
        simpa using hsemicolon
      have hmoved : line ++ ['/'] ++ (['/', '/'] ++ t) = line ++ '/' :: '/' :: ('/' :: t) := by simp
      rw [hmoved, cutAt_slashes_append hlast', (cutAt_eq_self_iff (by simp) _).2 hcut,
        (cutAt_eq_self_iff (by simp) _).2 hbefore, cutAt_append_of_occurs hsemicolon']
    · rw [List.cons_append, List.cons_append, List.nil_append, cutAt_slashes_append hlast]
  · rw [List.singleton_append, cutAt_semicolon_append]

/-! ### A comment in a source -/

/-- A line comment stands between the front of a text and the end of its line. No block comment covers its mark or goes
over the end of its line. -/
structure LineComment (front mark body behind : Text) : Prop where
  marked : mark = ['/', '/'] ∨ mark = [';']
  unbroken : ∀ c ∈ body, isLineBreak c = false
  ends : EndsLine behind
  starts : Uncovered (front ++ (mark ++ (body ++ behind))) (mark ++ (body ++ behind))
  stands : Uncovered (mark ++ (body ++ behind)) (body ++ behind)
  closes : Uncovered (body ++ behind) behind
  apart : mark = ['/', '/'] → ¬ LooseSlash (lastLine (dropBlocks front))

variable {front mark body behind : Text}

theorem head_of_endsLine (h : EndsLine behind) : ∀ c ∈ behind.head?, c ≠ '/' ∧ c ≠ '*' := by
  intro c hc
  have := h c hc
  constructor
  · rintro rfl
    exact absurd this (by decide)
  · rintro rfl
    exact absurd this (by decide)

theorem LineComment.dropBlocks_eq (h : LineComment front mark body behind) :
    dropBlocks (front ++ (mark ++ (body ++ behind))) =
        dropBlocks front ++ ((mark ++ dropBlocks body) ++ dropBlocks behind) ∧
      dropBlocks (front ++ behind) = dropBlocks front ++ dropBlocks behind := by
  have hmark : dropBlocks mark = mark := by
    rcases h.marked with rfl | rfl <;> simp [dropBlocks]
  have hsuffix : behind <:+ mark ++ (body ++ behind) := (List.suffix_append body behind).trans (List.suffix_append _ _)
  refine ⟨?_, dropBlocks_append (h.starts.shorten hsuffix (head_of_endsLine h.ends))⟩
  rw [dropBlocks_append h.starts, dropBlocks_append h.stands, dropBlocks_append h.closes, hmark]
  simp only [List.append_assoc]

theorem endsLine_dropBlocks (h : EndsLine behind) : EndsLine (dropBlocks behind) := by
  cases behind with
  | nil => simpa [dropBlocks] using h
  | cons c rest =>
    have hopen : ∀ t, ¬ OpensBlock (c :: rest) t := fun t ht => (head_of_endsLine h c (by simp)).1 ht.cons.1
    rw [dropBlocks_cons hopen]
    exact fun d hd => h d (by simpa using hd)

theorem stripComment_nil : stripComment [] = [] := by
  simp [stripComment, cutAt, dropBlocks]

theorem LineComment.unbroken_comment (h : LineComment front mark body behind) {t : Text} (ht : t ⊆ body) :
    ∀ c ∈ mark ++ t, isLineBreak c = false := by
  intro c hc
  rcases List.mem_append.1 hc with hc | hc
  · rcases h.marked with rfl | rfl
    · obtain rfl : c = '/' := by simpa using hc
      decide
    · obtain rfl : c = ';' := by simpa using hc
      decide
  · exact h.unbroken c (ht hc)

theorem LineComment.mark_ne_nil (h : LineComment front mark body behind) : mark ≠ [] := by
  rcases h.marked with rfl | rfl <;> simp

/-- A source is read without the comment. -/
theorem LineComment.read_eq (h : LineComment front mark body behind) (hreturn : '\r' ∉ front ++ behind) :
    Source.read (front ++ (mark ++ (body ++ behind))) = Source.read (front ++ behind) := by
  obtain ⟨hwith, hwithout⟩ := h.dropBlocks_eq
  have hreturn' : '\r' ∉ dropBlocks front ++ dropBlocks behind := fun hmem =>
    hreturn (((dropBlocks_sublist front).append (dropBlocks_sublist behind)).subset hmem)
  obtain ⟨before, rest, hlines, hlines'⟩ := lines_insert hreturn' (h.unbroken_comment (dropBlocks_sublist body).subset)
    (by simp [h.mark_ne_nil]) (endsLine_dropBlocks h.ends)
  have hstrip := stripComment_append h.marked h.apart (dropBlocks body)
  have hblank : ∀ s : Source, s.addLine (trim (stripComment [])) = s := by
    intro s
    rw [stripComment_nil]
    rfl
  unfold Source.read Source.cleanLines
  rw [hwith, hwithout, hlines, List.map_append, List.map_cons, hstrip]
  rcases hlines' with hlines' | ⟨hempty, hlines'⟩
  · rw [hlines', List.map_append, List.map_cons]
  · rw [hlines', hempty, List.map_append, List.foldl_append, List.foldl_append, List.foldl_cons, hblank]

/-- A text has an address column with the comment if it has one without it. -/
theorem LineComment.isAddressListing_eq (h : LineComment front mark body behind) (hreturn : '\r' ∉ front ++ behind)
    (hapart : mark = ['/', '/'] → ¬ LooseSlash (lastLine front)) :
    isAddressListing (front ++ (mark ++ (body ++ behind))) = isAddressListing (front ++ behind) := by
  obtain ⟨before, rest, hlines, hlines'⟩ := lines_insert hreturn (h.unbroken_comment (List.Subset.refl body))
    (by simp [h.mark_ne_nil]) h.ends
  have hread : Line.read (lastLine front ++ (mark ++ body)) = Line.read (lastLine front) := by
    rw [Line.read, stripComment_append h.marked hapart, Line.read]
  have hblank : (Line.read []).isAddressed = false := by
    rw [Line.read, stripComment_nil]
    rfl
  rw [List.append_assoc] at hlines
  rw [isAddressListing, isAddressListing, hlines, List.any_append, List.any_cons, hread]
  rcases hlines' with hlines' | ⟨hempty, hlines'⟩
  · rw [hlines', List.any_append, List.any_cons]
  · rw [hlines', hempty, hblank, Bool.false_or, List.any_append]

end Stepper.Asm
