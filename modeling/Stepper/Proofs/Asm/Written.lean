import Stepper.Proofs.Asm.Reading
import Stepper.Proofs.Text.Mark

/-! Instructions as they are written. Whatever the case of the letters, the blanks around the parts and the comment at
the end, an instruction is read as the mnemonic and the operands that it was written for, if no integer in it has too
many digits. -/

namespace Stepper.Asm

open Text Unicode Source

/-! ### Ways of writing -/

/-- A text with blanks around it. -/
inductive Padded (t : Text) : Text → Prop
  | mk {a b : Text} (ha : AllBlank a) (hb : AllBlank b) : Padded t (a ++ (t ++ b))

/-- The spellings of an operand: names in any letter case, and between brackets blanks around the base and the
offset. A label is any other name. -/
inductive Spells : OperandKind → Text → Prop
  | reg {t : Text} {r : Reg} (name : (t.map Char.toLower, r) ∈ registerNames) : Spells (.reg r) t
  | zero {t : Text} (name : t.map Char.toLower ∈ zeroNames) : Spells .zero t
  | imm {t : Text} {d : Digits} (written : WrittenInt t d) : Spells (.imm d.number) t
  | base {b p : Text} {r : Reg} (name : (b.map Char.toLower, r) ∈ registerNames) (padded : Padded b p) :
    Spells (.mem r 0) ('[' :: (p ++ [']']))
  | offset {b o p q : Text} {r : Reg} {d : Digits} (name : (b.map Char.toLower, r) ∈ registerNames) (padded : Padded b p)
    (written : WrittenInt o d) (padded' : Padded o q) : Spells (.mem r d.number) ('[' :: ((p ++ ',' :: q) ++ [']']))
  | label {t : Text} (name : isName t = true) (other : t.map Char.toLower ∉ keywords) :
    Spells (.label (t.map Char.toLower)) t

/-- Operands in a row, with commas between them and blanks around each. -/
inductive Row : List Operand → Text → Prop
  | none {b : Text} (hb : AllBlank b) : Row [] b
  | last {o : Operand} {p : Text} (spelled : Spells o.kind o.text) (padded : Padded o.text p) : Row [o] p
  | next {o o' : Operand} {os : List Operand} {p t : Text} (spelled : Spells o.kind o.text) (padded : Padded o.text p)
    (rest : Row (o' :: os) t) : Row (o :: o' :: os) (p ++ ',' :: t)

/-- Nothing, or a line comment. -/
inductive Remark : Text → Prop
  | none : Remark []
  | slashes (t : Text) : Remark ('/' :: '/' :: t)
  | semicolon (t : Text) : Remark (';' :: t)

/-- The ways of writing an instruction: a mnemonic, a blank, the operands and what may follow them. -/
inductive Writes (w : Text) (os : List Operand) : Text → Prop
  | mk {a row comment : Text} {b : Char} (ha : AllBlank a) (hb : isBlank b = true) (hrow : Row os row)
    (hcomment : Remark comment) : Writes w os (a ++ (w ++ b :: row) ++ comment)

/-! ### Letter case -/

theorem ascii_of_toLower {c : Char} (h : c.toLower.toNat < 128) : c.toNat < 128 := by
  by_cases hu : c.isUpper = true
  · exact ascii_of_isUpper hu
  · have hsame : c.toLower = c := dif_neg fun hrange => hu (decide_eq_true hrange)
    rwa [hsame] at h

/-- A name that becomes that of a register has no letters beyond ASCII. -/
theorem lower_of_mem_keywords {t : Text} (h : t.map Char.toLower ∈ keywords) : lower t = t.map Char.toLower := by
  obtain ⟨-, hchars, -, -⟩ := keyword_spelling _ h
  exact lower_of_ascii fun c hc => ascii_of_toLower (ascii_of_isNameChar (hchars _ (List.mem_map_of_mem hc)))

theorem mem_keywords_of_mem_registerNames {name : Text} {r : Reg} (h : (name, r) ∈ registerNames) : name ∈ keywords :=
  List.mem_append_left _ (List.mem_map_of_mem (f := Prod.fst) h)

theorem registerNamed?_lower {t : Text} {r : Reg} (h : (t.map Char.toLower, r) ∈ registerNames) :
    registerNamed? (lower t) = some r := by
  have hall : ∀ x ∈ registerNames, registerNamed? x.1 = some x.2 := by decide +kernel
  rw [lower_of_mem_keywords (mem_keywords_of_mem_registerNames h)]
  exact hall _ h

theorem registerNamed?_of_not_mem {name : Text} (h : name ∉ keywords) : registerNamed? name = none := by
  cases hr : registerNamed? name with
  | none => rfl
  | some r => exact absurd (mem_keywords_of_registerNamed? hr) h

theorem stopless_of_mem_keywords {t : Text} (h : t.map Char.toLower ∈ keywords) : t ≠ [] ∧ Stopless t := by
  obtain ⟨hne, -, -, -⟩ := keyword_spelling _ h
  refine ⟨fun h0 => hne (by simp [h0]), stopless_of_keyword ?_⟩
  rwa [lower_of_mem_keywords h]

theorem stopless_of_mem_registerNames {t : Text} {r : Reg} (h : (t.map Char.toLower, r) ∈ registerNames) :
    t ≠ [] ∧ Stopless t :=
  stopless_of_mem_keywords (mem_keywords_of_mem_registerNames h)

theorem isNameChar_of_isAlpha {c : Char} (h : c.isAlpha = true) : isNameChar c = true := by
  simp [isNameChar, isNameStart, h]

theorem upper_of_letters {w : Text} (h : ∀ c ∈ w, c.isAlpha = true) : upper w = w.map Char.toUpper := by
  induction w with
  | nil => rfl
  | cons c w ih =>
    have hc : upperChar c = [c.toUpper] := upperChar_ascii (ascii_of_isNameChar (isNameChar_of_isAlpha (h c (by simp))))
    have hcons : upper (c :: w) = upperChar c ++ upper w := rfl
    rw [hcons, hc, ih fun d hd => h d (by simp [hd])]
    rfl

/-! ### Operands -/

theorem allBlank_nil : AllBlank [] := fun _ h => absurd h List.not_mem_nil

theorem Padded.trim {t p : Text} (h : Padded t p) (ht : Trimmed t) : trim p = t := by
  obtain ⟨ha, hb⟩ := h
  exact trim_between ha hb ht

theorem Padded.unparted {t p : Text} (h : Padded t p) (ht : Stopless t) : Unparted p := by
  obtain ⟨ha, hb⟩ := h
  intro c hc
  rcases List.mem_append.1 hc with hc | hc
  · exact unparted_of_allBlank ha c hc
  · rcases List.mem_append.1 hc with hc | hc
    · exact unparted_of_stopless ht c hc
    · exact unparted_of_allBlank hb c hc

theorem Padded.unmarked {t p : Text} (h : Padded t p) (ht : Unmarked t) : Unmarked p := by
  obtain ⟨ha, hb⟩ := h
  exact (unmarked_of_allBlank ha).append (ht.append (unmarked_of_allBlank hb))

theorem unmarked_singleton {c : Char} (h : isMark c = false) : Unmarked [c] := fun d hd => by
  rwa [List.mem_singleton.1 hd]

theorem splitOn_of_unparted {p : Text} (hp : Unparted p) : splitOn ',' p = [p] :=
  splitWhen_of_none fun c hc => by simpa using (hp c hc).1

theorem splitOn_comma {p : Text} (hp : Unparted p) (t : Text) : splitOn ',' (p ++ ',' :: t) = p :: splitOn ',' t := by
  have hcomma : splitOn ',' (',' :: t) = [] :: splitOn ',' t := by simp [splitOn, splitWhen]
  have happend : splitOn ',' (p ++ ',' :: t) = glue p (splitOn ',' (',' :: t)) :=
    splitWhen_append (fun c hc => by simpa using (hp c hc).1) _
  rw [happend, hcomma, glue, List.append_nil]

theorem memoryParts_base {b p : Text} {r : Reg} (name : (b.map Char.toLower, r) ∈ registerNames) (padded : Padded b p) :
    MemoryParts ((splitOn ',' p).map Text.trim) r none := by
  have hb := (stopless_of_mem_registerNames name).2
  rw [splitOn_of_unparted (padded.unparted hb), List.map_singleton, padded.trim hb.solid.trimmed]
  exact .base (registerNamed?_lower name)

theorem memoryParts_offset {b o p q : Text} {r : Reg} {d : Digits} (name : (b.map Char.toLower, r) ∈ registerNames)
    (padded : Padded b p) (written : WrittenInt o d) (padded' : Padded o q) :
    MemoryParts ((splitOn ',' (p ++ ',' :: q)).map Text.trim) r (some d) := by
  have hb := (stopless_of_mem_registerNames name).2
  have ho := written.stopless.2
  rw [splitOn_comma (padded.unparted hb), splitOn_of_unparted (padded'.unparted ho), List.map_cons, List.map_singleton,
    padded.trim hb.solid.trimmed, padded'.trim ho.solid.trimmed]
  exact .offset (registerNamed?_lower name) written.immediateDigits?

/-- What starts as a name does is no integer and nothing between brackets. -/
theorem not_other_of_isName {t : Text} (h : isName t = true) : immediateDigits? t = none ∧ bracketed? t = none := by
  have hlabel := labelName_of_isName h
  obtain ⟨c, rest, hcons, hstart⟩ := hlabel.start
  constructor
  · cases hv : immediateDigits? t with
    | none => rfl
    | some d =>
      rw [immediateDigits?_eq_some_iff, trim_of_trimmed hlabel.stopless.solid.trimmed] at hv
      obtain ⟨d, rest', hcons', hno⟩ := hv.head
      rw [hcons] at hcons'
      obtain ⟨rfl, -⟩ := List.cons.inj hcons'
      simp [hstart] at hno
  · cases hb : bracketed? t with
    | none => rfl
    | some inside =>
      have hbracket := bracketed?_eq_some_iff.1 hb
      rw [hcons] at hbracket
      obtain ⟨rfl, -⟩ := List.cons.inj hbracket
      exact absurd hstart (by decide)

/-- Every spelling is read as what it spells, unless an integer in it is too long. -/
theorem Spells.read {k : OperandKind} {t : Text} (h : Spells k t) (hshort : ¬LongOperand t) :
    OperandKind.read t = .ok k := by
  cases h with
  | reg name =>
    unfold OperandKind.read
    simp only [registerNamed?_lower name]
  | zero name =>
    have hall : ∀ n ∈ zeroNames, registerNamed? n = none := by decide +kernel
    have hlower := lower_of_mem_keywords (List.mem_append_right _ name)
    unfold OperandKind.read
    simp only [hlower, hall _ name, List.contains_iff_mem.2 name, if_true]
  | imm written =>
    rw [read_writtenInt written, Digits.value_of_not_tooMany fun hlong => hshort ⟨_, .alone written, hlong⟩]
    rfl
  | base name padded =>
    rw [read_memory (memoryParts_base name padded)]
    rfl
  | offset name padded written padded' =>
    have hparts := memoryParts_offset name padded written padded'
    rw [read_memory hparts, offsetValue, Option.elim, Digits.value_of_not_tooMany fun hlong => hshort ⟨_, .offset rfl hparts, hlong⟩]
    rfl
  | label name other =>
    have hlower : lower t = t.map Char.toLower := (labelName_of_isName name).lower_eq
    have hzero : t.map Char.toLower ∉ zeroNames := fun h => other (List.mem_append_right _ h)
    obtain ⟨hdigits, hbracket⟩ := not_other_of_isName name
    unfold OperandKind.read
    simp [hlower, registerNamed?_of_not_mem other, hzero, hbracket, immediate?, hdigits, name, Except.map]

/-! ### Operands in a row -/

/-- A piece of a row: nothing in it is a comment, and the commas in it are between brackets. -/
structure Whole (t : Text) : Prop where
  ne_nil : t ≠ []
  trimmed : Trimmed t
  unmarked : Unmarked t
  split : ∀ rest, splitOutside 0 (t ++ rest) = glue t (splitOutside 0 rest)

theorem whole_of_stopless {t : Text} (ne : t ≠ []) (h : Stopless t) : Whole t :=
  ⟨ne, h.solid.trimmed, h.unmarked, splitOutside_append (unparted_of_stopless h) 0⟩

/-- Between brackets nothing is parted. -/
theorem splitOutside_inside {a : Text} (ha : ∀ c ∈ a, c ≠ '[' ∧ c ≠ ']') (depth : Nat) (t : Text) :
    splitOutside (depth + 1) (a ++ t) = glue a (splitOutside (depth + 1) t) := by
  induction a with
  | nil => rw [List.nil_append, glue_nil (splitOutside_ne_nil _ t)]
  | cons c a ih =>
    obtain ⟨hopen, hclose⟩ := ha c (by simp)
    have hturn : turn (depth + 1) c = depth + 1 := by simp [turn, hopen, hclose]
    rw [List.cons_append, splitOutside_cons (fun h => absurd h.2 (Nat.succ_ne_zero depth)), hturn,
      ih fun d hd => ha d (by simp [hd]), glue_glue]
    rfl

theorem whole_brackets {inside : Text} (hno : ∀ c ∈ inside, c ≠ '[' ∧ c ≠ ']') (hu : Unmarked inside) :
    Whole ('[' :: (inside ++ [']'])) where
  ne_nil := by simp
  trimmed := by
    refine ⟨fun c hc => ?_, fun c hc => ?_⟩
    · obtain rfl := Option.some.inj hc
      decide
    · rw [← List.cons_append, List.getLast?_concat] at hc
      obtain rfl := Option.some.inj hc
      decide
  unmarked := by
    have hopen : Unmarked ['['] := unmarked_singleton (by decide)
    have hclose : Unmarked [']'] := unmarked_singleton (by decide)
    exact hopen.append (hu.append hclose)
  split rest := by
    have hopen : turn 0 '[' = 1 := rfl
    have hclose : turn 1 ']' = 0 := rfl
    rw [List.cons_append, splitOutside_cons (by simp), hopen, List.append_assoc, splitOutside_inside hno 0,
      List.singleton_append, splitOutside_cons (by simp), hclose, glue_glue, glue_glue]
    rfl

theorem Spells.whole {k : OperandKind} {t : Text} (h : Spells k t) : Whole t := by
  cases h with
  | reg name =>
    obtain ⟨ne, hs⟩ := stopless_of_mem_registerNames name
    exact whole_of_stopless ne hs
  | zero name =>
    obtain ⟨ne, hs⟩ := stopless_of_mem_keywords (List.mem_append_right _ name)
    exact whole_of_stopless ne hs
  | imm written => exact whole_of_stopless written.stopless.1 written.stopless.2
  | base name padded =>
    have hb := (stopless_of_mem_registerNames name).2
    exact whole_brackets (fun c hc => (padded.unparted hb c hc).2) (padded.unmarked hb.unmarked)
  | offset name padded written padded' =>
    have hb := (stopless_of_mem_registerNames name).2
    have ho := written.stopless.2
    have hcomma : Unmarked [','] := unmarked_singleton (by decide)
    have hbehind := hcomma.append (padded'.unmarked ho.unmarked)
    refine whole_brackets (fun c hc => ?_) ((padded.unmarked hb.unmarked).append hbehind)
    rcases List.mem_append.1 hc with hc | hc
    · exact (padded.unparted hb c hc).2
    · rcases List.mem_cons.1 hc with rfl | hc
      · decide
      · exact (padded'.unparted ho c hc).2
  | label name other =>
    have hlabel := labelName_of_isName name
    exact whole_of_stopless hlabel.ne_nil hlabel.stopless

theorem Padded.split {t p : Text} (h : Padded t p) (ht : Whole t) (rest : Text) :
    splitOutside 0 (p ++ rest) = glue p (splitOutside 0 rest) := by
  obtain ⟨ha, hb⟩ := h
  rw [List.append_assoc, List.append_assoc, splitOutside_append (unparted_of_allBlank ha), ht.split,
    splitOutside_append (unparted_of_allBlank hb), glue_glue, glue_glue, List.append_assoc]

theorem trim_of_allBlank {b : Text} (hb : AllBlank b) : Text.trim b = [] :=
  trim_between (a := []) (m := []) allBlank_nil hb Trimmed.nil

variable {os : List Operand} {row : Text}

/-- The operands of a row are found as they were spelled. -/
theorem Row.splitOperands (h : Row os row) : splitOperands row = os.map (·.text) := by
  induction h with
  | none hb =>
    rw [Asm.splitOperands, splitOutside_of_unparted (unparted_of_allBlank hb), List.map_singleton, trim_of_allBlank hb]
    rfl
  | last spelled padded =>
    have hsplit := padded.split spelled.whole []
    rw [List.append_nil] at hsplit
    rw [Asm.splitOperands, hsplit]
    simp [splitOutside, glue, padded.trim spelled.whole.trimmed, spelled.whole.ne_nil]
  | next spelled padded rest ih =>
    rw [Asm.splitOperands] at ih
    rw [Asm.splitOperands, padded.split spelled.whole, splitOutside_comma, glue, List.append_nil, List.map_cons,
      padded.trim spelled.whole.trimmed, List.filter_cons_of_pos (by simpa using spelled.whole.ne_nil), ih]
    rfl

theorem Row.spelled (h : Row os row) : ∀ o ∈ os, Spells o.kind o.text := by
  induction h with
  | none hb => simp
  | last spelled padded => simpa using spelled
  | next spelled padded rest ih =>
    intro o ho
    rcases List.mem_cons.1 ho with rfl | ho
    · exact spelled
    · exact ih o ho

theorem Row.read (h : Row os row) (hshort : ∀ o ∈ os, ¬LongOperand o.text) :
    (Asm.splitOperands row).mapM Operand.read = .ok os := by
  have hread : ∀ o ∈ os, Operand.read o.text = .ok o := fun o ho =>
    read_of_kind (h.spelled o ho).whole.trimmed ((h.spelled o ho).read (hshort o ho))
  rw [h.splitOperands, List.mapM_map, mapM_eq_ok_iff, List.forall₂_same]
  exact hread

theorem Row.unmarked (h : Row os row) : Unmarked row := by
  have hcomma : Unmarked [','] := unmarked_singleton (by decide)
  induction h with
  | none hb => exact unmarked_of_allBlank hb
  | last spelled padded => exact padded.unmarked spelled.whole.unmarked
  | next spelled padded rest ih => exact (padded.unmarked spelled.whole.unmarked).append (hcomma.append ih)

theorem Row.ne_nil {o : Operand} (h : Row (o :: os) row) : row ≠ [] := by
  cases h with
  | last spelled padded =>
    obtain ⟨ha, hb⟩ := padded
    simp [spelled.whole.ne_nil]
  | next spelled padded rest => simp

theorem Padded.exists_trimStart {t p : Text} (h : Padded t p) (ht : Whole t) (rest : Text) :
    ∃ p', Padded t p' ∧ Text.trimStart (p ++ rest) = p' ++ rest := by
  obtain ⟨ha, hb⟩ := h
  refine ⟨_, .mk (a := []) allBlank_nil hb, ?_⟩
  rw [List.append_assoc, List.append_assoc, trimStart_append_of_blank ha, List.nil_append, List.append_assoc]
  refine trimStart_of_head fun c hc => ht.trimmed.head c ?_
  rwa [List.head?_append_of_ne_nil _ ht.ne_nil] at hc

/-- Blanks in front of a row are no part of it. -/
theorem Row.trimStart (h : Row os row) : Row os (trimStart row) := by
  cases h with
  | none hb =>
    rw [Text.trimStart, List.dropWhile_eq_nil_iff.2 hb]
    exact .none allBlank_nil
  | last spelled padded =>
    obtain ⟨p', hp', heq⟩ := padded.exists_trimStart spelled.whole []
    rw [List.append_nil, List.append_nil] at heq
    exact heq ▸ .last spelled hp'
  | next spelled padded rest =>
    obtain ⟨p', hp', heq⟩ := padded.exists_trimStart spelled.whole _
    exact heq ▸ .next spelled hp' rest

/-- Blanks behind a row are no part of it either. -/
theorem Row.exists_trimEnd (h : Row os row) :
    ∃ r b, Row os r ∧ AllBlank b ∧ row = r ++ b ∧ ∀ c ∈ r.getLast?, isBlank c = false := by
  induction h with
  | none hb => exact ⟨[], _, .none allBlank_nil, hb, rfl, by simp⟩
  | @last o p spelled padded =>
    obtain ⟨ha, hb⟩ := padded
    refine ⟨_, _, .last spelled (.mk ha (b := []) allBlank_nil), hb, by simp, fun c hc => ?_⟩
    rw [List.append_nil, List.getLast?_append_of_ne_nil _ spelled.whole.ne_nil] at hc
    exact spelled.whole.trimmed.last c hc
  | next spelled padded rest ih =>
    obtain ⟨r, b, hr, hb, rfl, hlast⟩ := ih
    refine ⟨_, b, .next spelled padded hr, hb, by simp, fun c hc => ?_⟩
    rw [List.getLast?_append_of_ne_nil _ (by simp), List.getLast?_cons_of_ne_nil hr.ne_nil] at hc
    exact hlast c hc

/-! ### Comments -/

theorem Unmarked.not_mem {u : Text} (h : Unmarked u) {c : Char} (hc : isMark c = true) : c ∉ u :=
  fun hmem => by simp [h c hmem] at hc

/-- A remark is cut off, whatever it says. -/
theorem stripComment_append_remark {u comment : Text} (hu : Unmarked u) (hcomment : Remark comment) :
    stripComment (u ++ comment) = u := by
  have hslash : '/' ∉ u := hu.not_mem (by decide)
  have hsemicolon : ';' ∉ u := hu.not_mem (by decide)
  have hcut : ∀ {c : Char} (m : Text), c ∉ u → cutAt (c :: m) u = u := by
    intro c m hc
    have := cutAt_append (clear_of_head (m := m) hc) []
    simpa [cutAt] using this
  have hblocks : dropBlocks u = u := dropBlocks_of_not_infix fun h => hslash (h.subset (by simp))
  have hlines : cutAt [';'] (cutAt ['/', '/'] (u ++ comment)) = u := by
    rw [cutAt_append (clear_of_head hslash)]
    cases hcomment with
    | none => simp [cutAt, hcut [] hsemicolon]
    | slashes t =>
      have hmarker : cutAt ['/', '/'] ('/' :: '/' :: t) = [] := cutAt_mark (by simp) t
      rw [hmarker, List.append_nil, hcut [] hsemicolon]
    | semicolon t =>
      have hstart : cutAt ['/', '/'] (';' :: t) = ';' :: cutAt ['/', '/'] t := by
        rw [cutAt, if_neg (by simp [List.isPrefixOf])]
      have hmarker : cutAt [';'] (';' :: cutAt ['/', '/'] t) = [] := cutAt_mark (by simp) _
      rw [hstart, cutAt_append (clear_of_head hsemicolon), hmarker, List.append_nil]
  rw [stripComment, hlines, hblocks]

/-! ### Instructions -/

theorem read_of_trim {t working : Text} (h : Text.trim (stripComment t) = working) (ne : working ≠ []) (lineNo : Int) :
    Instruction.read t lineNo =
      Instruction.ofParts t (upper (splitWord working).1) (splitOperands (splitWord working).2) := by
  obtain ⟨c, rest, rfl⟩ := List.exists_cons_of_ne_nil ne
  rw [Instruction.read, h]

/-- What is left without the blanks at both ends is the mnemonic and, if there are operands, a row of them. -/
theorem exists_working {a w row : Text} {b : Char} (ha : AllBlank a) (ne : w ≠ []) (hw : Solid w) (hb : isBlank b = true)
    (hrow : Row os row) :
    ∃ working r, Text.trim (a ++ (w ++ b :: row)) = working ∧ working ≠ [] ∧ splitWord working = (w, r) ∧ Row os r := by
  obtain ⟨r, z, hr, hz, rfl, hlast⟩ := hrow.exists_trimEnd
  by_cases hnil : r = []
  · subst hnil
    have hz' : AllBlank (b :: z) := by simpa [AllBlank] using ⟨hb, hz⟩
    exact ⟨w, [], trim_between ha hz' hw.trimmed, ne, (Parted.word ne hw).splitWord, hr⟩
  · have htrimmed : Trimmed (w ++ b :: r) := by
      refine ⟨fun c hc => ?_, fun c hc => ?_⟩
      · rw [List.head?_append_of_ne_nil _ ne] at hc
        exact hw.trimmed.head c hc
      · rw [List.getLast?_append_of_ne_nil _ (by simp), List.getLast?_cons_of_ne_nil hnil] at hc
        exact hlast c hc
    have htrim := trim_between ha hz htrimmed
    rw [List.append_assoc] at htrim
    exact ⟨w ++ b :: r, trimStart r, htrim, by simp, splitWord_append_blank hw hb r, hr.trimStart⟩

/-- An instruction is read as it was written: its mnemonic in upper case and exactly its operands. The mnemonic is of
ASCII letters; each operand may be spelled in any of its ways, with any blanks around it, and a comment may follow. Only
an integer with too many decimal digits, as an operand or as an offset, cannot be read, and then nothing is. -/
theorem written_instruction_is_read {w : Text} {os : List Operand} {t : Text} (ne : w ≠ [])
    (letters : ∀ c ∈ w, c.isAlpha = true) (h : Writes w os t) (lineNo : Int) :
    ((∀ o ∈ os, ¬LongOperand o.text) → Instruction.read t lineNo = .ok ⟨t, w.map Char.toUpper, os⟩) ∧
      ((∃ o ∈ os, LongOperand o.text) → ∃ cause, Instruction.read t lineNo = .error (.digits cause)) := by
  cases h with
  | @mk a row comment b ha hb hrow hcomment =>
    have hw : Stopless w := fun c hc => isStop_of_isNameChar (isNameChar_of_isAlpha (letters c hc))
    have hblank : AllBlank [b] := fun c hc => by rwa [List.mem_singleton.1 hc]
    have hu : Unmarked (a ++ (w ++ b :: row)) :=
      (unmarked_of_allBlank ha).append (hw.unmarked.append ((unmarked_of_allBlank hblank).append hrow.unmarked))
    obtain ⟨working, r, hworking, hne, hsplit, hr⟩ := exists_working ha ne hw.solid hb hrow
    rw [← stripComment_append_remark hu hcomment] at hworking
    rw [read_of_trim hworking hne lineNo, hsplit, upper_of_letters letters]
    refine ⟨fun hshort => ofParts_of_mapM (hr.read hshort) _ _, ?_⟩
    rintro ⟨o, ho, hlong⟩
    rcases ofParts_cases _ (w.map Char.toUpper) fun o ho => trimmed_of_mem_splitOperands ho with
      ⟨os', -, -, hshort⟩ | ⟨cause, hcause, -⟩
    · exact absurd hlong (hshort _ (hr.splitOperands ▸ List.mem_map_of_mem ho))
    · exact ⟨cause, hcause⟩

/-- A load with blanks and a comment, in letters of both cases. -/
def loudLoad : Text := "\tLdR X1 , [ SP,\t#-0x1F ];from [below, // here"

theorem loud_load_is_read :
    Instruction.read loudLoad 0 =
      .ok ⟨loudLoad, "LDR", [⟨.reg 1, "X1"⟩, ⟨.mem .sp (-31), "[ SP,\t#-0x1F ]"⟩]⟩ := by
  have hblank : AllBlank [' '] := by simp [AllBlank, isBlank_space]
  have htab : AllBlank ['\t'] := by
    unfold AllBlank
    decide
  have hoffset : WrittenInt "#-0x1F" ⟨true, 16, [1, 15]⟩ := by
    refine ⟨['#', '-'], "0x1F", by decide, by decide, ?_, by decide⟩
    have hmagnitude : magnitude? true "0x1F" = some ⟨true, 16, [1, 15]⟩ := by decide
    exact (magnitude?_eq_some_iff.1 hmagnitude).2
  have hfirst : Spells (.reg 1) "X1" := .reg (by decide +kernel)
  have hsecond : Spells (.mem .sp (-31)) "[ SP,\t#-0x1F ]" :=
    .offset (b := "SP") (o := "#-0x1F") (by decide +kernel) (.mk hblank allBlank_nil) hoffset (.mk htab hblank)
  have hrow : Row [⟨.reg 1, "X1"⟩, ⟨.mem .sp (-31), "[ SP,\t#-0x1F ]"⟩] "X1 , [ SP,\t#-0x1F ]" :=
    .next hfirst (.mk allBlank_nil hblank) (.last hsecond (.mk hblank allBlank_nil))
  have hwrites : Writes "LdR" [⟨.reg 1, "X1"⟩, ⟨.mem .sp (-31), "[ SP,\t#-0x1F ]"⟩] loudLoad :=
    .mk (b := ' ') htab (by decide) hrow (.semicolon "from [below, // here")
  refine (written_instruction_is_read (by decide) (by decide) hwrites 0).1 fun o ho hlong => ?_
  obtain ⟨cause, hcause⟩ := (longOperand_iff (hrow.spelled o ho).whole.trimmed).1 hlong
  have hread : ∀ o ∈ [(⟨.reg 1, "X1"⟩ : Operand), ⟨.mem .sp (-31), "[ SP,\t#-0x1F ]"⟩],
      OperandKind.read o.text = .ok o.kind := by decide +kernel
  simp [hread o ho] at hcause

end Stepper.Asm
