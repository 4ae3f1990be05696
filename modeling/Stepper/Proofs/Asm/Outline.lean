import Stepper.Proofs.Asm.Reading

/-! The outline of a plain source: the labels and the instructions that its lines say they have. Reading goes by the
first character of a line before it looks for a label, so it agrees with the outline just where no label starts
with a dot and no directive stands behind a label. -/

namespace Stepper.Asm.Source

open Text Unicode

/-- What a line holds beside its label. -/
def body (line : Text) : Text :=
  match labelled? line with
  | some (_, rest) => rest
  | none => line

/-- The label in front of a line, in lower case. -/
def labelOf? (line : Text) : Option Text :=
  (labelled? line).map fun l => lower l.1

/-- A directive starts with a dot and is no label. -/
def directs (t : Text) : Bool :=
  isDirective t && (labelled? t).isNone

/-- The instruction on a line, with or without a label in front of it. -/
def instructionOf? (line : Text) : Option Text :=
  if (body line).isEmpty || directs (body line) then none else some (body line)

/-- A label has no dot in front and no directive behind. -/
def conventional (line : Text) : Bool :=
  (labelled? line).all fun l => !isDirective line && !directs l.2

/-- The labels of some lines, each with the number of instructions in front of it. There are `n` of them in front of
all the lines. -/
def placed (label? instruction? : Text → Option Text) (n : Nat) : List Text → List (Text × Nat)
  | [] => []
  | line :: rest =>
    (label? line).toList.map (·, n) ++ placed label? instruction? (n + (instruction? line).toList.length) rest

/-- The source that the lines make by what each of them names and holds. -/
def gathered (label? instruction? : Text → Option Text) (ls : List Text) : Source :=
  ⟨placed label? instruction? 0 ls, ls.filterMap instruction?⟩

/-- What is meant by a source. -/
def outline (source : Text) : Source :=
  gathered labelOf? instructionOf? (cleanLines source)

/-! ### Gathering -/

theorem filterMap_cons_toList {α β : Type} (f : α → Option β) (a : α) (l : List α) :
    (a :: l).filterMap f = (f a).toList ++ l.filterMap f := by
  rw [List.filterMap_cons]
  cases f a <;> rfl

theorem lookup_of_notMem {α : Type} {labels : List (Text × α)} {name : Text} (h : name ∉ labels.map (·.1)) :
    labels.lookup name = none := by
  rw [List.lookup_eq_none_iff]
  intro l hl
  have hne : name ≠ l.1 := by
    rintro rfl
    exact h (List.mem_map_of_mem hl)
  simpa using hne

section

variable {label? instruction? : Text → Option Text}

variable (instruction?) in
theorem map_fst_placed (n : Nat) (ls : List Text) :
    (placed label? instruction? n ls).map (·.1) = ls.filterMap label? := by
  induction ls generalizing n with
  | nil => rfl
  | cons line ls ih =>
    rw [placed, List.map_append, ih, filterMap_cons_toList]
    cases label? line <;> rfl

/-- A label that no line in front of it has is placed behind the instructions in front of it. -/
theorem lookup_placed {before : List Text} {line name : Text} (hfresh : name ∉ before.filterMap label?)
    (hname : label? line = some name) (after : List Text) (n : Nat) :
    (placed label? instruction? n (before ++ line :: after)).lookup name =
      some (n + (before.filterMap instruction?).length) := by
  induction before generalizing n with
  | nil => simp [placed, hname]
  | cons first before ih =>
    rw [filterMap_cons_toList, List.mem_append, not_or] at hfresh
    obtain ⟨hfirst, hrest⟩ := hfresh
    have hskip : ((label? first).toList.map (·, n)).lookup name = none := lookup_of_notMem (by simpa using hfirst)
    rw [List.cons_append, placed, List.lookup_append, hskip, Option.none_or, ih hrest, filterMap_cons_toList,
      List.length_append, Nat.add_assoc]

theorem lookup_placed_none {ls : List Text} {name : Text} (h : name ∉ ls.filterMap label?) (n : Nat) :
    (placed label? instruction? n ls).lookup name = none := by
  apply lookup_of_notMem
  rw [map_fst_placed]
  exact h

/-- Adding lines one by one gathers them, if no label comes twice. -/
theorem foldl_gathered {add : Source → Text → Source}
    (hadd : ∀ s line, add s line = ⟨(label? line).elim s.labels fun name => assign name s.instructions.length s.labels,
      s.instructions ++ (instruction? line).toList⟩)
    {ls : List Text} {s : Source} (hnodup : (s.labels.map (·.1) ++ ls.filterMap label?).Nodup) :
    ls.foldl add s = ⟨s.labels ++ placed label? instruction? s.instructions.length ls,
      s.instructions ++ ls.filterMap instruction?⟩ := by
  induction ls generalizing s with
  | nil => simp [placed]
  | cons line ls ih =>
    rw [List.foldl_cons, hadd]
    cases hlabel : label? line with
    | none =>
      rw [Option.elim_none, ih (by simpa [hlabel] using hnodup)]
      simp [placed, hlabel, filterMap_cons_toList]
    | some name =>
      -- the name is new, so it goes behind the labels that are there
      have hnew : s.labels.lookup name = none := by
        apply lookup_of_notMem
        intro hmem
        have := List.disjoint_of_nodup_append hnodup hmem
        simp [hlabel] at this
      have hstep : ((s.labels ++ [(name, s.instructions.length)]).map (·.1) ++ ls.filterMap label?).Nodup := by
        simpa [hlabel] using hnodup
      rw [Option.elim_some, assign_of_lookup_none _ hnew, ih hstep]
      simp [placed, hlabel, filterMap_cons_toList]

end

/-- In an outline without a label that comes twice each label stands where it is. -/
theorem lookup_outline {source line name : Text} {before after : List Text}
    (hnodup : ((cleanLines source).filterMap labelOf?).Nodup) (hsplit : cleanLines source = before ++ line :: after)
    (hname : labelOf? line = some name) :
    (outline source).labels.lookup name = some (before.filterMap instructionOf?).length := by
  have hfresh : name ∉ before.filterMap labelOf? := by
    rw [hsplit, List.filterMap_append] at hnodup
    intro hmem
    have := List.disjoint_of_nodup_append hnodup hmem
    simp [hname] at this
  rw [outline, hsplit, gathered, lookup_placed hfresh hname after 0, Nat.zero_add]

/-! ### What reading finds -/

/-- The label that is read off a line. -/
def readLabel? (line : Text) : Option Text :=
  if isDirective line then none else labelOf? line

/-- The instruction that is read off a line. -/
def readInstruction? (line : Text) : Option Text :=
  if isDirective line || (body line).isEmpty then none else some (body line)

theorem addLine_eq (s : Source) (line : Text) :
    s.addLine line = ⟨(readLabel? line).elim s.labels fun name => assign name s.instructions.length s.labels,
      s.instructions ++ (readInstruction? line).toList⟩ := by
  unfold addLine readLabel? readInstruction? labelOf? body
  cases hdir : isDirective line with
  | true => simp
  | false =>
    cases hlab : labelled? line with
    | none =>
      cases line with
      | nil => simp
      | cons c t => simp
    | some l =>
      have hne : line ≠ [] := by
        rintro rfl
        simp [labelled?] at hlab
      cases hrest : l.2 with
      | nil => simp [hne, hrest]
      | cons c t => simp [hne, hrest]

theorem read_eq_gathered {source : Text} (h : ((cleanLines source).filterMap readLabel?).Nodup) :
    Source.read source = gathered readLabel? readInstruction? (cleanLines source) := by
  have := foldl_gathered (s := ⟨[], []⟩) addLine_eq (by simpa using h)
  simpa [Source.read, gathered] using this

/-- The labels that are read are among those that are meant. -/
theorem filterMap_readLabel? (ls : List Text) : (ls.filterMap readLabel?).Sublist (ls.filterMap labelOf?) := by
  have heq : ls.filterMap readLabel? = (ls.filter fun line => !isDirective line).filterMap labelOf? := by
    rw [List.filterMap_filter]
    refine List.filterMap_congr fun line _ => ?_
    cases h : isDirective line <;> simp [readLabel?, h]
  rw [heq]
  exact List.filter_sublist.filterMap _

theorem conventional_iff {line name rest : Text} (h : labelled? line = some (name, rest)) :
    conventional line = true ↔ isDirective line = false ∧ directs rest = false := by
  simp [conventional, h]

theorem readLabel?_of_conventional {line : Text} (h : conventional line = true) : readLabel? line = labelOf? line := by
  cases hlab : labelled? line with
  | none => simp [readLabel?, labelOf?, hlab]
  | some l => simp [readLabel?, ((conventional_iff hlab).1 h).1]

theorem readInstruction?_of_conventional {line : Text} (h : conventional line = true) :
    readInstruction? line = instructionOf? line := by
  cases hlab : labelled? line with
  | none => simp [readInstruction?, instructionOf?, body, directs, hlab, Bool.or_comm]
  | some l =>
    obtain ⟨hdot, hbehind⟩ := (conventional_iff hlab).1 h
    simp [readInstruction?, instructionOf?, body, hlab, hdot, hbehind]

/-- Where a function has no more values than one that has a value wherever it has one, the two have values at the
same places. -/
theorem isSome_of_length_filterMap {α β : Type} {f g : α → Option β} {l : List α}
    (himp : ∀ a ∈ l, (f a).isSome = true → (g a).isSome = true)
    (hlen : (l.filterMap f).length = (l.filterMap g).length) : ∀ a ∈ l, (g a).isSome = true → (f a).isSome = true := by
  induction l with
  | nil => simp
  | cons a l ih =>
    have himp' : ∀ b ∈ l, (f b).isSome = true → (g b).isSome = true := fun b hb => himp b (by simp [hb])
    have hle : (l.filterMap f).length ≤ (l.filterMap g).length := by
      rw [List.length_filterMap_eq_countP, List.length_filterMap_eq_countP]
      exact List.countP_mono_left himp'
    have hhead := himp a (by simp)
    rw [List.filterMap_cons, List.filterMap_cons] at hlen
    cases hf : f a with
    | none =>
      cases hg : g a with
      | none =>
        rw [hf, hg] at hlen
        simpa [hf, hg] using ih himp' hlen
      | some c =>
        rw [hf, hg] at hlen
        simp only [List.length_cons] at hlen
        omega
    | some b =>
      obtain ⟨c, hg⟩ := Option.isSome_iff_exists.1 (hhead (by simp [hf]))
      rw [hf, hg] at hlen
      simpa [hf] using ih himp' (by simpa using hlen)

theorem placed_congr {f f' g g' : Text → Option Text} {ls : List Text} (hf : ∀ line ∈ ls, f line = f' line)
    (hg : ∀ line ∈ ls, g line = g' line) (n : Nat) : placed f g n ls = placed f' g' n ls := by
  induction ls generalizing n with
  | nil => rfl
  | cons line ls ih =>
    rw [placed, placed, hf line (by simp), hg line (by simp),
      ih (fun l hl => hf l (by simp [hl])) fun l hl => hg l (by simp [hl])]

/-- A label that is read is meant as one, and has no dot in front. -/
theorem labelOf?_of_readLabel? {line : Text} (h : (readLabel? line).isSome = true) :
    (labelOf? line).isSome = true ∧ isDirective line = false := by
  unfold readLabel? at h
  split at h
  · simp at h
  · next hdir => exact ⟨h, by simpa using hdir⟩

/-- What is meant as an instruction is read as one, unless it stands behind a label with a dot in front. -/
theorem readInstruction?_of_instructionOf? {line : Text}
    (hdot : (labelled? line).isSome = true → isDirective line = false) (h : (instructionOf? line).isSome = true) :
    (readInstruction? line).isSome = true := by
  cases hlab : labelled? line with
  | none => simpa [readInstruction?, instructionOf?, body, directs, hlab, Bool.or_comm] using h
  | some l =>
    have hline := hdot (by simp [hlab])
    have hne : l.2 ≠ [] := by
      intro h0
      simp [instructionOf?, body, hlab, h0] at h
    simp [readInstruction?, body, hlab, hline, hne]

/-- Lines are conventional if no label and no instruction of them is lost or added by reading. -/
theorem conventional_of_lengths {ls : List Text}
    (hlabels : (ls.filterMap readLabel?).length = (ls.filterMap labelOf?).length)
    (hinstructions : (ls.filterMap readInstruction?).length = (ls.filterMap instructionOf?).length) :
    ∀ line ∈ ls, conventional line = true := by
  have hdot : ∀ line ∈ ls, (labelled? line).isSome = true → isDirective line = false := by
    intro line hline hsome
    have hread := isSome_of_length_filterMap (fun _ _ h => (labelOf?_of_readLabel? h).1) hlabels line hline
    exact (labelOf?_of_readLabel? (hread (by simpa [labelOf?] using hsome))).2
  have hread := isSome_of_length_filterMap
    (fun line hline => readInstruction?_of_instructionOf? (hdot line hline)) hinstructions.symm
  intro line hline
  cases hlab : labelled? line with
  | none => simp [conventional, hlab]
  | some l =>
    have hline_dot := hdot line hline (by simp [hlab])
    refine (conventional_iff hlab).2 ⟨hline_dot, ?_⟩
    by_contra hdir
    have hne : l.2 ≠ [] := by
      intro h0
      simp [directs, isDirective, h0] at hdir
    have := hread line hline (by simp [readInstruction?, body, hlab, hline_dot, hne])
    simp [instructionOf?, body, hlab, hdir] at this

/-- A source is read as it is meant if and only if all of its lines are conventional. -/
theorem read_eq_outline_iff {source : Text} (hnodup : ((cleanLines source).filterMap labelOf?).Nodup) :
    Source.read source = outline source ↔ ∀ line ∈ cleanLines source, conventional line = true := by
  rw [read_eq_gathered (hnodup.sublist (filterMap_readLabel? _)), outline]
  constructor
  · intro h
    have hlabels := congrArg (fun s : Source => (s.labels.map (·.1)).length) h
    have hinstructions := congrArg (fun s : Source => s.instructions.length) h
    simp only [gathered, map_fst_placed] at hlabels hinstructions
    exact conventional_of_lengths hlabels hinstructions
  · intro h
    have hlabels : ∀ line ∈ cleanLines source, readLabel? line = labelOf? line := fun line hline =>
      readLabel?_of_conventional (h line hline)
    have hinstructions : ∀ line ∈ cleanLines source, readInstruction? line = instructionOf? line := fun line hline =>
      readInstruction?_of_conventional (h line hline)
    simp only [gathered, Source.mk.injEq]
    exact ⟨placed_congr hlabels hinstructions 0, List.filterMap_congr hinstructions⟩

example : conventional ".L1: nop" = false ∧ conventional "msg: .word 5" = false ∧ conventional "l1: nop" = true := by
  decide

end Stepper.Asm.Source
