import Stepper.Proofs.Asm.Columns
import Stepper.Proofs.Asm.Kinds
import Stepper.Proofs.Text.Reading

/-! One text read in two ways. A plain source that is read as a listing gives the same labels and the same
instructions, with single spaces, that the preparation takes from it; and an instruction is read as its first
word and its operands, however it is spelled. -/

namespace Stepper.Asm

open Text Unicode Source

/-! ### Sources and listings -/

theorem dropBlocks_of_not_infix {t : Text} (h : ¬ ['/', '*'] <:+: t) : dropBlocks t = t := by
  fun_induction dropBlocks t with
  | case1 => rfl
  | case2 rest after hafter ih => exact absurd ⟨[], rest, rfl⟩ h
  | case3 rest hnone => rfl
  | case4 c rest hopen ih => rw [ih fun hi => h (hi.trans (List.suffix_cons c rest).isInfix)]

theorem isAddressed_read (raw : Text) :
    (Line.read raw).isAddressed = (addressColumns? (trim (stripComment raw))).isSome := by
  have hreads := Line.reads_read raw
  generalize trim (stripComment raw) = line at hreads ⊢
  generalize Line.read raw = read at hreads ⊢
  cases hreads with
  | blank => rfl
  | addressed columns => rw [columns]; rfl
  | labelled columns _ => rw [columns]; rfl
  | plain _ columns _ => rw [columns]; rfl

/-- In a text without comments the lines show their columns as they stand. -/
theorem isAddressListing_of_commentFree {text : Text} (h : ∀ line ∈ lines text, CommentFree line) :
    isAddressListing text = (lines text).any fun line => (addressColumns? (trim line)).isSome := by
  have hline : ∀ line ∈ lines text, (Line.read line).isAddressed = (addressColumns? (trim line)).isSome := by
    intro line hline
    rw [isAddressed_read, stripComment_of_commentFree (h line hline)]
  rw [isAddressListing, Bool.eq_iff_iff, List.any_eq_true, List.any_eq_true]
  exact exists_congr fun line => and_congr_right fun hmem => by rw [hline line hmem]

theorem cleanLines_of_commentFree {source : Text} (hblock : ¬ ['/', '*'] <:+: source)
    (h : ∀ line ∈ lines source, CommentFree line) : cleanLines source = (lines source).map trim := by
  rw [cleanLines, dropBlocks_of_not_infix hblock]
  exact List.map_congr_left fun line hline => by rw [stripComment_of_commentFree (h line hline)]

/-- What a source and a listing of the same text have in common. -/
structure Agrees (s : Source) (l : Listing) : Prop where
  codeStart : l.codeStart = none
  lines : l.lines = s.instructions.map squeeze
  labels : l.labels = s.labels.map fun x => (x.1, (x.2 : Int))

theorem Agrees.push {s : Source} {l : Listing} (h : Agrees s l) {rest : Text} (ht : Trimmed rest) (ne : rest ≠ []) :
    Agrees { s with instructions := s.instructions ++ [rest] } (l.push rest) where
  codeStart := h.codeStart
  lines := by
    have := (squeeze_of_trimmed ht ne).2
    simp [Listing.push, h.lines, this]
  labels := h.labels

theorem assign_of_lookup_none {α : Type} {name : Text} {labels : List (Text × α)} (value : α)
    (h : labels.lookup name = none) : assign name value labels = labels ++ [(name, value)] := by
  induction labels with
  | nil => rfl
  | cons x labels ih =>
    obtain ⟨n, v⟩ := x
    by_cases hn : name = n
    · subst hn
      simp at h
    · have hne : (name == n) = false := by simpa using hn
      rw [List.lookup_cons, hne] at h
      simp [assign, Ne.symm hn, ih h]

theorem Agrees.label {s : Source} {l : Listing} (h : Agrees s l) {name : Text} (hnew : l.labels.lookup name = none) :
    Agrees { s with labels := assign name s.instructions.length s.labels }
      { l with labels := l.labels ++ [(name, (l.lines.length : Int))] } where
  codeStart := h.codeStart
  lines := h.lines
  labels := by
    rw [h.labels, lookup_map, Option.map_eq_none_iff] at hnew
    rw [assign_of_lookup_none _ hnew, h.labels, h.lines]
    simp

/-- A line that is placed in a listing adds the same to a source, unless it is a directive or has an address. -/
theorem Agrees.place {s : Source} {l l' : Listing} (h : Agrees s l) {lineNo : Nat} {raw : Text}
    (hplain : (Line.read raw).isAddressed = false) (hdot : (trim (stripComment raw)).head? ≠ some '.')
    (hplace : l.place lineNo raw = .ok l') : Agrees (s.addLine (trim (stripComment raw))) l' := by
  have ht := trimmed_trim (stripComment raw)
  have hreads := Line.reads_read raw
  rw [Listing.place] at hplace
  generalize trim (stripComment raw) = line at hdot ht hreads ⊢
  generalize Line.read raw = read at hplain hplace hreads
  have hdir : isDirective line = false := by simpa [isDirective] using hdot
  cases hreads with
  | blank =>
    obtain rfl := Except.ok.inj hplace
    simpa [Source.addLine] using h
  | addressed _ => simp [Line.isAddressed] at hplain
  | plain ne _ label =>
    obtain rfl := Except.ok.inj hplace
    have := h.push ht ne
    simpa [Source.addLine, hdir, label, ne] using this
  | @labelled _ name behind _ label =>
    obtain ⟨-, -, b, -, -, hbehind⟩ := labelled?_eq_some label
    have ne : line ≠ [] := by
      rintro rfl
      simp [labelled?] at label
    dsimp only at hplace
    split at hplace
    · simp at hplace
    · next hnew =>
      have hlabel := h.label (Option.not_isSome_iff_eq_none.1 hnew)
      obtain rfl := Except.ok.inj hplace
      by_cases hb : behind = []
      · simpa [Source.addLine, hdir, label, ne, hb] using hlabel
      · have hpush := hlabel.push (hbehind ▸ trimmed_trim b) hb
        simpa [Source.addLine, hdir, label, ne, hb] using hpush

theorem Agrees.placeAll {raws : List Text} {s : Source} {l l' : Listing} (h : Agrees s l) {lineNo : Nat}
    (hplain : ∀ raw ∈ raws, (Line.read raw).isAddressed = false)
    (hdot : ∀ raw ∈ raws, (trim (stripComment raw)).head? ≠ some '.')
    (hplace : l.placeAll lineNo raws = .ok l') :
    Agrees ((raws.map fun raw => trim (stripComment raw)).foldl Source.addLine s) l' := by
  induction raws generalizing s l lineNo with
  | nil =>
    obtain rfl := Except.ok.inj hplace
    exact h
  | cons raw raws ih =>
    rw [Listing.placeAll] at hplace
    cases hfirst : l.place lineNo raw with
    | error e =>
      rw [hfirst] at hplace
      simp [bind, Except.bind] at hplace
    | ok l₁ =>
      rw [hfirst] at hplace
      have hstep := h.place (hplain raw (by simp)) (hdot raw (by simp)) hfirst
      exact ih hstep (fun r hr => hplain r (by simp [hr])) (fun r hr => hdot r (by simp [hr])) hplace

theorem agrees_of_read {source : Text} {l : Listing} (hplain : isAddressListing source = false)
    (hblock : ¬ ['/', '*'] <:+: source) (hdot : ∀ line ∈ lines source, (trim (stripComment line)).head? ≠ some '.')
    (hread : Listing.read source = .ok l) : Agrees (Source.read source) l := by
  have hnone : ∀ line ∈ lines source, (Line.read line).isAddressed = false := by
    intro line hline
    by_contra h
    have : isAddressListing source = true := List.any_eq_true.2 ⟨line, hline, by simpa using h⟩
    simp [hplain] at this
  rw [Source.read, cleanLines, dropBlocks_of_not_infix hblock]
  exact Agrees.placeAll ⟨rfl, rfl, rfl⟩ hnone hdot hread

/-! ### The parts of an instruction -/

theorem splitWord_append_blank {w : Text} (hw : Solid w) {b : Char} (hb : isBlank b = true) (r : Text) :
    splitWord (w ++ b :: r) = (w, trimStart r) := by
  have hword : ∀ c ∈ w, (!isBlank c) = true := fun c hc => by simp [hw c hc]
  have hblank : trimStart (b :: r) = trimStart r := List.dropWhile_cons_of_pos hb
  rw [splitWord, List.takeWhile_append_of_pos hword, List.dropWhile_append_of_pos hword,
    List.takeWhile_cons_of_neg (by simp [hb]), List.dropWhile_cons_of_neg (by simp [hb]), List.append_nil, hblank]

/-- A tidy text that is its first word and what stands behind the space after it. -/
inductive Parted : Text → Text → Text → Prop
  | word {w : Text} (ne : w ≠ []) (solid : Solid w) : Parted w w []
  | space {w r : Text} (ne : w ≠ []) (solid : Solid w) (rest : Tidy r) : Parted (w ++ ' ' :: r) w r

theorem exists_parted {t : Text} (h : Tidy t) : ∃ w r, Parted t w r := by
  cases h with
  | word ne solid => exact ⟨_, _, .word ne solid⟩
  | space ne solid rest => exact ⟨_, _, .space ne solid rest⟩

theorem Parted.tidy {t w r : Text} (h : Parted t w r) : Tidy t := by
  cases h with
  | word ne solid => exact .word ne solid
  | space ne solid rest => exact .space ne solid rest

theorem Parted.splitWord {t w r : Text} (h : Parted t w r) : splitWord t = (w, r) := by
  cases h with
  | word ne solid =>
    have hword : ∀ c ∈ t, (!isBlank c) = true := fun c hc => by simp [solid c hc]
    rw [Asm.splitWord, List.takeWhile_eq_self_iff.2 hword, List.dropWhile_eq_nil_iff.2 hword]
    rfl
  | space ne solid rest =>
    rw [splitWord_append_blank solid isBlank_space, trimStart_of_head rest.trimmed.head]

theorem Parted.unique {t w r w' r' : Text} (h : Parted t w r) (h' : Parted t w' r') : w = w' ∧ r = r' := by
  have := h.splitWord.symm.trans h'.splitWord
  exact Prod.mk.inj this

theorem Parted.prefix_word {t w r n : Text} (h : Parted t w r) (hn : Stopless n) (hp : n <+: t) : n <+: w := by
  cases h with
  | word ne solid => exact hp
  | space ne solid rest => exact (prefix_append_stop_iff hn isStop_space _ _).1 hp

theorem trimmed_of_mem_splitOperands {r o : Text} (h : o ∈ splitOperands r) : Trimmed o := by
  obtain ⟨p, -, rfl⟩ := List.mem_map.1 (List.mem_filter.1 h).1
  exact trimmed_trim p

theorem kind_of_read {o : Text} (h : Trimmed o) {x : Operand} (hx : Operand.read o = .ok x) :
    OperandKind.read o = .ok x.kind := by
  rw [Operand.read, trim_of_trimmed h] at hx
  cases hk : OperandKind.read o with
  | error e => simp [hk, Except.map] at hx
  | ok k =>
    rw [hk] at hx
    obtain rfl := Except.ok.inj hx
    rfl

theorem read_of_kind {o : Text} (h : Trimmed o) {k : OperandKind} (hk : OperandKind.read o = .ok k) :
    Operand.read o = .ok ⟨k, o⟩ := by
  rw [Operand.read, trim_of_trimmed h, hk]
  rfl

theorem ofParts_of_mapM {texts : List Text} {os : List Operand} (h : texts.mapM Operand.read = .ok os) (t m : Text) :
    Instruction.ofParts t m texts = .ok ⟨t, m, os⟩ := by
  rw [Instruction.ofParts, h]

theorem mapM_of_ofParts {texts : List Text} {t m : Text} {i : Instruction} (h : Instruction.ofParts t m texts = .ok i) :
    ∃ os, texts.mapM Operand.read = .ok os ∧ i = ⟨t, m, os⟩ := by
  unfold Instruction.ofParts at h
  cases hos : texts.mapM Operand.read with
  | error e => simp [hos] at h
  | ok os =>
    rw [hos] at h
    exact ⟨os, rfl, (Except.ok.inj h).symm⟩

/-- The parts of an instruction make one unless an operand has too long an integer; nothing else is wrong with them. -/
theorem ofParts_cases (t m : Text) {texts : List Text} (ht : ∀ o ∈ texts, Trimmed o) :
    (∃ os, texts.mapM Operand.read = .ok os ∧ Instruction.ofParts t m texts = .ok ⟨t, m, os⟩ ∧
        ∀ o ∈ texts, ¬LongOperand o) ∨
      ∃ cause, Instruction.ofParts t m texts = .error (.digits cause) ∧ ∃ o ∈ texts, LongOperand o := by
  by_cases hlong : ∃ o ∈ texts, LongOperand o
  · refine .inr ?_
    cases hos : texts.mapM Operand.read with
    | error cause => exact ⟨cause, by rw [Instruction.ofParts, hos], hlong⟩
    | ok os =>
      obtain ⟨o, ho, h⟩ := hlong
      obtain ⟨cause, hcause⟩ := (longOperand_iff (ht o ho)).1 h
      obtain ⟨x, -, hx⟩ := exists_mem_of_mapM hos ho
      simp [kind_of_read (ht o ho) hx] at hcause
  · have hshort : ∀ o ∈ texts, ¬LongOperand o := fun o ho h => hlong ⟨o, ho, h⟩
    obtain ⟨os, hos⟩ := exists_mapM_eq_ok fun o ho => by
      cases hk : OperandKind.read o with
      | error cause => exact absurd ((longOperand_iff (ht o ho)).2 ⟨cause, hk⟩) (hshort o ho)
      | ok k => exact ⟨_, read_of_kind (ht o ho) hk⟩
    exact .inl ⟨os, hos, ofParts_of_mapM hos t m, hshort⟩

/-- An instruction is read as its first word in upper case and the operands behind it. -/
theorem Parted.read {t w r : Text} (h : Parted t w r) (hc : CommentFree t) (lineNo : Int) :
    Instruction.read t lineNo = Instruction.ofParts t (upper w) (splitOperands r) := by
  obtain ⟨c, rest, hcons⟩ := List.exists_cons_of_ne_nil h.tidy.ne_nil
  rw [Instruction.read, stripComment_of_commentFree hc, trim_of_trimmed h.tidy.trimmed, hcons]
  dsimp only
  rw [← hcons, h.splitWord]

/-- The instruction on a clean line: its first word in upper case and its operands, of which squeezing keeps the parts. -/
theorem read_of_trimmed {line : Text} (ht : Trimmed line) (ne : line ≠ []) (hc : CommentFree line) (lineNo : Int) :
    ∃ w r, Parted (squeeze line) w (squeeze r) ∧
      Instruction.read line lineNo = Instruction.ofParts line (upper w) (splitOperands r) := by
  have hread : ∀ w r, splitWord line = (w, r) →
      Instruction.read line lineNo = Instruction.ofParts line (upper w) (splitOperands r) := by
    intro w r hsplit
    obtain ⟨c, rest, hcons⟩ := List.exists_cons_of_ne_nil ne
    rw [Instruction.read, stripComment_of_commentFree hc, trim_of_trimmed ht, hcons]
    dsimp only
    rw [← hcons, hsplit]
  obtain ⟨w, wne, solid, rfl | ⟨b, r, hb, rfl⟩⟩ := exists_word ne ht.head
  · refine ⟨line, [], ?_, hread _ _ (Parted.word wne solid).splitWord⟩
    rw [squeeze_of_solid solid]
    exact .word wne solid
  · obtain ⟨w', r', hparted⟩ := exists_parted (tidy_squeeze ht ne)
    have hsqueeze : squeeze (w ++ b :: r) = w ++ ' ' :: squeeze (trimStart r) := by
      rw [squeeze_of_solid_append solid, squeeze_cons_of_blank hb]
    have hhead : trimStart (squeeze (trimStart r)) = squeeze (trimStart r) := by
      apply trimStart_of_head
      intro c hc
      rw [head?_squeeze (head_trimStart r)] at hc
      exact head_trimStart r c hc
    have hsplit := hparted.splitWord
    rw [hsqueeze, splitWord_append_blank solid isBlank_space, hhead] at hsplit
    obtain ⟨rfl, rfl⟩ := Prod.mk.inj hsplit
    exact ⟨w, trimStart r, hparted, hread _ _ (splitWord_append_blank solid hb r)⟩

theorem Parted.piecewise {f : Text → Text} (hf : Piecewise f) {t w r : Text} (h : Parted t w r) :
    Parted (f t) (f w) (f r) := by
  cases h with
  | word ne solid =>
    rw [hf.nil]
    exact .word (fun h0 => ne ((hf.eq_nil_iff _).1 h0)) (hf.solid solid)
  | space ne solid rest =>
    rw [hf.stop _ _ isStop_space]
    exact .space (fun h0 => ne ((hf.eq_nil_iff _).1 h0)) (hf.solid solid) (hf.tidy rest)

theorem Parted.tightenCommas {t w r : Text} (h : Parted t w r) (hw : w.getLast? ≠ some ',') :
    Parted (tightenCommas t) w (tightenCommas r) := by
  cases h with
  | word ne solid =>
    rw [tightenCommas_solid solid, Source.tightenCommas]
    exact .word ne solid
  | space ne solid rest =>
    rw [tightenCommas_solid_append ne solid, if_neg hw, tightenCommas_cons_of_ne (by decide)]
    exact .space ne solid (tidy_tightenCommas rest)

/-- The instruction in a listing has the operands of the normal form with their labels replaced. -/
theorem Parted.instructionText {base : Int} {labels : List (Text × Nat)} (hf : Piecewise (resolve base labels))
    {line w r : Text} (h : Parted (normalize line) w r) :
    Parted (instructionText base labels line) w (resolve base labels r) := by
  generalize hn : normalize line = t at h
  cases h with
  | word ne solid =>
    rw [instructionText_of_solid hf (hn ▸ solid), hn, hf.nil]
    exact .word ne solid
  | space ne solid rest =>
    rw [instructionText_of_space hf solid rest.ne_nil hn]
    exact .space ne solid (hf.tidy rest)

end Stepper.Asm
