import Stepper.Proofs.Asm.Columns
import Stepper.Proofs.Asm.Reading

/-! Lines of a listing are final. Whichever way a line got there, behind an address column, behind a label or as it stood,
nothing of it is a comment and its blanks are single spaces, so reading it again takes nothing off: the instruction on it is
the whole line, unless an integer on it has too many digits to be read. -/

namespace Stepper.Asm

open Numeral Text Unicode Source

/-- What stripping leaves has no comment that stripping would find. -/
theorem stripComment_stripComment (t : Text) : stripComment (stripComment t) = stripComment t :=
  stripComment_of_commentFree (commentFree_stripComment t)

/-! ### Instructions of slots -/

theorem unmarked_of_isHexDigit {t : Text} (h : ∀ c ∈ t, isHexDigit c = true) : Unmarked t :=
  Stopless.unmarked fun c hc => isStop_of_isHexDigit (h c hc)

theorem clean_of_addressColumns? {line instruction : Text} {a : Nat} (h : addressColumns? line = some (a, instruction))
    (hline : Clean line) : instruction ≠ [] ∧ Clean instruction := by
  obtain ⟨address, gap, code, gap', haddress, hgap, hcode, hgap', rfl, ne, hhead⟩ := addressColumns?_eq_some h
  have hfront : Unmarked (address ++ ([':'] ++ (gap ++ (code ++ gap')))) := by
    refine (unmarked_of_isHexDigit haddress).append (Unmarked.append ?_ ?_)
    · unfold Unmarked
      decide
    · exact (unmarked_of_allBlank hgap).append ((unmarked_of_isHexDigit hcode).append (unmarked_of_allBlank hgap'))
  have hsplit : address ++ ([':'] ++ (gap ++ (code ++ (gap' ++ instruction)))) =
      address ++ ([':'] ++ (gap ++ (code ++ gap'))) ++ instruction := by simp
  rw [hsplit] at hline
  refine ⟨ne, ⟨hhead, fun c hc => hline.trimmed.last c ?_⟩, (commentFree_append_iff hfront _).1 hline.commentFree⟩
  rw [List.getLast?_append_of_ne_nil _ ne]
  exact hc

/-- The instruction of a slot is there, and it is clean. -/
theorem clean_of_slot? {raw : Text} {s : Slot} (h : (Line.read raw).slot? = some s) :
    s.instruction ≠ [] ∧ Clean s.instruction := by
  have hclean : Clean (trim (stripComment raw)) := ⟨trimmed_trim _, (commentFree_stripComment raw).trim⟩
  have hreads := Line.reads_read raw
  generalize trim (stripComment raw) = line at hclean hreads
  generalize Line.read raw = read at h hreads
  cases hreads with
  | blank => simp [Line.slot?] at h
  | addressed columns =>
    obtain rfl := Option.some.inj h
    exact clean_of_addressColumns? columns hclean
  | labelled _ label =>
    obtain ⟨-, -, behind, -, -, hrest⟩ := labelled?_eq_some label
    simp only [Line.slot?] at h
    split at h
    · simp at h
    · next ne =>
      obtain rfl := Option.some.inj h
      exact ⟨by simpa using ne, hrest ▸ trimmed_trim behind, commentFree_labelled label hclean.commentFree⟩
  | plain ne _ _ =>
    obtain rfl := Option.some.inj h
    exact ⟨ne, hclean⟩

/-! ### Final lines -/

/-- A line that is read as it stands. It has something on it and no line break, its blanks are single ones between words, and
no part of it is a comment. Its first word in upper case is the mnemonic, and the operands are those in all that stands
behind; only an integer of too many digits in one of them keeps it from being read. -/
structure Final (line : Text) : Prop where
  ne : line ≠ []
  unbroken : ∀ c ∈ line, isLineBreak c = false
  trimmed : Trimmed line
  single : line.IsChain fun c d => isBlank c = true → isBlank d = false
  stripped : stripComment line = line
  read : ∃ w r, Parted line w r ∧ ∀ lineNo,
    (∃ os, (splitOperands r).mapM Operand.read = .ok os ∧ Instruction.read line lineNo = .ok ⟨line, upper w, os⟩ ∧
        ∀ o ∈ splitOperands r, ¬LongOperand o) ∨
      ∃ cause, Instruction.read line lineNo = .error (.digits cause) ∧ ∃ o ∈ splitOperands r, LongOperand o

theorem final_of_tidy {line : Text} (h : Tidy line) (hc : CommentFree line) : Final line where
  ne := h.ne_nil
  unbroken _ hmem := h.not_isLineBreak hmem
  trimmed := h.trimmed
  single := h.isChain
  stripped := stripComment_of_commentFree hc
  read := by
    obtain ⟨w, r, hparted⟩ := exists_parted h
    refine ⟨w, r, hparted, fun lineNo => ?_⟩
    rw [hparted.read hc lineNo]
    exact ofParts_cases line (upper w) fun o ho => trimmed_of_mem_splitOperands ho

/-- A listing has no other lines, whatever it was read from. -/
theorem Listing.final_of_read {text : Text} {l : Listing} (h : Listing.read text = .ok l) : ∀ line ∈ l.lines, Final line := by
  intro line hline
  rw [(filled_of_read h).lines] at hline
  obtain ⟨s, hs, rfl⟩ := List.mem_map.1 hline
  obtain ⟨raw, -, hslot⟩ := List.mem_filterMap.1 hs
  obtain ⟨ne, hclean⟩ := clean_of_slot? hslot
  have htidy := tidy_squeeze hclean.trimmed ne
  have hfree : CommentFree (squeeze s.instruction) := by
    rw [CommentFree, scan_after_squeeze]
    exact hclean.commentFree
  rw [← (squeeze_of_trimmed hclean.trimmed ne).2]
  exact final_of_tidy htidy hfree

end Stepper.Asm
