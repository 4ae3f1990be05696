import Stepper.Proofs.Asm.Source

/-! The listing that a plain source is turned into. Each of its lines is read back as the address and the
instruction that were written, so the whole text is read as the instructions in order, without labels. -/

namespace Stepper.Asm

open Numeral Text Unicode

/-- What stands between the address and the instruction. -/
def codeColumn : Text :=
  [':', ' ', '0', '0', '0', '0', '0', '0', '0', '0', ' ', ' ', ' ']

theorem codeColumn_eq : codeColumn = (": 00000000   " : Text) := by decide

/-- A line of a listing file with its address and its instruction. -/
def addressLine (address : Nat) (instruction : Text) : Text :=
  padTo 6 (natHex address) ++ (codeColumn ++ instruction)

theorem isStop_column {a : Nat} {c : Char} (h : c ∈ padTo 6 (natHex a)) : isStop c = false :=
  isStop_of_isHexDigit (isHexDigit_of_mem_padTo h)

theorem isHexDigit_colon : isHexDigit ':' = false := by decide

theorem addressColumns?_addressLine (a : Nat) {u : Text} (hu : Tidy u) :
    addressColumns? (addressLine a u) = some (a, u) := by
  have htake : (addressLine a u).takeWhile isHexDigit = padTo 6 (natHex a) := by
    rw [addressLine, List.takeWhile_append_of_pos fun c hc => isHexDigit_of_mem_padTo hc, codeColumn, List.cons_append,
      List.takeWhile_cons_of_neg (by simp [isHexDigit_colon]), List.append_nil]
  have hdrop : (addressLine a u).dropWhile isHexDigit = codeColumn ++ u := by
    rw [addressLine, List.dropWhile_append_of_pos fun c hc => isHexDigit_of_mem_padTo hc, codeColumn, List.cons_append,
      List.dropWhile_cons_of_neg (by simp [isHexDigit_colon])]
  obtain ⟨d, ds, hcol⟩ := List.exists_cons_of_ne_nil (padTo_ne_nil 6 a)
  have hcode : trimStart (codeColumn.drop 2 ++ u) = codeColumn.drop 2 ++ u := by
    apply trimStart_of_head
    intro c hc
    obtain rfl : c = '0' := by simpa [codeColumn, eq_comm] using hc
    decide
  have hinstr : trimStart ([' ', ' ', ' '] ++ u) = u := by
    rw [trimStart_append_of_blank (by unfold AllBlank; decide), trimStart_of_head hu.trimmed.head]
  have hval : ofDigits 16 (leadingDigits hexDigit? (d :: ds)) = a := by
    rw [← hcol]
    exact ofDigits_padTo 6 a
  have hdigits : ((codeColumn.drop 2 ++ u).take 8).all isHexDigit = true := by
    simp only [codeColumn, List.drop_succ_cons, List.drop_zero, List.cons_append, List.take_succ_cons, List.take_zero]
    decide
  have hbehind : (codeColumn.drop 2 ++ u).drop 8 = [' ', ' ', ' '] ++ u := rfl
  have hlen : 8 ≤ (codeColumn.drop 2 ++ u).length := by
    simp only [codeColumn, List.drop_succ_cons, List.drop_zero, List.cons_append, List.length_cons]
    omega
  have hsplit : codeColumn ++ u = ':' :: ' ' :: (codeColumn.drop 2 ++ u) := rfl
  unfold addressColumns?
  rw [htake, hdrop, hcol, hsplit]
  simp only [hcode, hdigits, hbehind, hinstr, hval, isBlank_space, hlen]
  simp [hu.ne_nil]
  omega

theorem unmarked_addressColumn (a : Nat) : Unmarked (padTo 6 (natHex a) ++ codeColumn) := by
  refine Unmarked.append ?_ ?_
  · exact Stopless.unmarked fun c hc => isStop_column hc
  · unfold Unmarked codeColumn
    decide

theorem trimmed_addressLine (a : Nat) {u : Text} (hu : Tidy u) : Trimmed (addressLine a u) := by
  refine ⟨fun c hc => ?_, fun c hc => ?_⟩
  · rw [addressLine, List.head?_append_of_ne_nil _ (padTo_ne_nil 6 a)] at hc
    have hs : Stopless (padTo 6 (natHex a)) := fun c hc => isStop_column hc
    exact hs.solid c (List.mem_of_mem_head? hc)
  · rw [addressLine, ← List.append_assoc, List.getLast?_append_of_ne_nil _ hu.ne_nil] at hc
    exact hu.trimmed.last c hc

theorem lineRead_addressLine (a : Nat) {u : Text} (hu : Tidy u) (hc : CommentFree u) :
    Line.read (addressLine a u) = .addressed a u := by
  have hfree : CommentFree (addressLine a u) := by
    rw [addressLine, ← List.append_assoc, commentFree_append_iff (unmarked_addressColumn a)]
    exact hc
  have hne : addressLine a u ≠ [] := by simp [addressLine, padTo_ne_nil]
  obtain ⟨c, rest, hcons⟩ := List.exists_cons_of_ne_nil hne
  have hcolumns := addressColumns?_addressLine a hu
  rw [Line.read, stripComment_of_commentFree hfree, trim_of_trimmed (trimmed_addressLine a hu), hcons]
  rw [hcons] at hcolumns
  simp [hcolumns]

theorem not_isLineBreak_addressLine (a : Nat) {u : Text} (hu : Tidy u) :
    ∀ c ∈ addressLine a u, isLineBreak c = false := by
  intro c hc
  rcases List.mem_append.1 hc with hc | hc
  · by_contra hb
    have := isStop_of_isBlank (isBlank_of_isLineBreak (c := c) (by simpa using hb))
    simp [isStop_column hc] at this
  · rcases List.mem_append.1 hc with hc | hc
    · have : ∀ d ∈ codeColumn, isLineBreak d = false := by
        unfold codeColumn
        decide
      exact this c hc
    · exact hu.not_isLineBreak hc

namespace Source

theorem listingLine_eq (base : Nat) (labels : List (Text × Nat)) (index : Nat) (line : Text) :
    listingLine base labels index line =
      addressLine (base + index * instructionSize) (instructionText base labels line) := by
  have hcast : (base : Int) + (index : Int) * (instructionSize : Int) = ((base + index * instructionSize : Nat) : Int) := by
    push_cast
    rfl
  rw [listingLine, hcast, column_natHex, addressLine, codeColumn_eq, List.append_assoc]

/-- The instruction column for every line of a source is tidy and free of comments. -/
theorem Sound.column {s : Source} (h : Sound s) (base : Nat) {line : Text} (hl : line ∈ s.instructions) :
    Tidy (instructionText base s.labels line) ∧ CommentFree (instructionText base s.labels line) := by
  obtain ⟨ne, hc⟩ := h.clean line hl
  have hf := piecewise_resolve (Int.natCast_nonneg base) h.named
  have ht := tidy_normalize hc.trimmed ne
  exact ⟨tidy_instructionText hf ht, commentFree_instructionText hf ht (commentFree_normalize hc.commentFree)⟩

end Source

/-- The listing under construction takes an address line at its next address. -/
theorem place_addressLine {l : Listing} {start : Nat} {u : Text} (lineNo : Nat)
    (hl : l.codeStart = some (start : Int) ∨ l.codeStart = none ∧ l.lines = []) (hu : Tidy u) (hc : CommentFree u) :
    l.place lineNo (addressLine (start + l.lines.length * instructionSize) u) =
      .ok ⟨some start, l.lines ++ [u], l.labels⟩ := by
  rw [Listing.place, lineRead_addressLine _ hu hc]
  rcases hl with hs | ⟨hs, hnil⟩
  · simp [hs, Listing.nextAddress, Listing.push, hu.unwords_words]
  · simp [hs, hnil, Listing.nextAddress, Listing.push, hu.unwords_words]

/-- Whole columns are placed one behind the other. -/
theorem placeAll_addressLines {l : Listing} {us : List Text} (start lineNo : Nat)
    (hl : l.codeStart = some (start : Int) ∨ l.codeStart = none ∧ l.lines = [])
    (hu : ∀ u ∈ us, Tidy u ∧ CommentFree u) :
    l.placeAll lineNo (us.mapIdx fun i u => addressLine (start + (l.lines.length + i) * instructionSize) u) =
      .ok ⟨if us = [] then l.codeStart else some start, l.lines ++ us, l.labels⟩ := by
  induction us generalizing l lineNo with
  | nil => simp [Listing.placeAll]
  | cons u us ih =>
    obtain ⟨ht, hc⟩ := hu u (by simp)
    have hstep := place_addressLine lineNo hl ht hc
    have hrest := ih (l := ⟨some start, l.lines ++ [u], l.labels⟩) (lineNo + 1) (.inl rfl)
      fun v hv => hu v (by simp [hv])
    rw [List.mapIdx_cons, Listing.placeAll]
    simp only [Nat.add_zero]
    rw [hstep]
    simp only [List.length_append, List.length_singleton, Nat.add_assoc, Nat.add_comm 1] at hrest
    simpa [bind, Except.bind] using hrest

theorem lines_prepare (source : Text) (base : Nat) :
    lines (prepare source base) = Source.listingLines base (Source.read source) := by
  apply lines_unlines
  intro line hline
  obtain ⟨i, hi, rfl⟩ := List.mem_mapIdx.1 hline
  rw [Source.listingLine_eq]
  exact not_isLineBreak_addressLine _ ((Source.sound_read source).column base (List.getElem_mem hi)).1

/-- The instructions that stand in the listing of a source. -/
def preparedLines (source : Text) (base : Nat) : List Text :=
  (Source.read source).instructions.map (Source.instructionText base (Source.read source).labels)

theorem listingLines_eq (source : Text) (base : Nat) :
    Source.listingLines base (Source.read source) =
      (preparedLines source base).mapIdx fun i u => addressLine (base + i * instructionSize) u := by
  apply List.ext_getElem
  · simp [Source.listingLines, preparedLines]
  · intro i h1 h2
    simp [Source.listingLines, preparedLines, Source.listingLine_eq]

theorem preparedLines_column {source : Text} {base : Nat} {u : Text} (h : u ∈ preparedLines source base) :
    Tidy u ∧ CommentFree u := by
  obtain ⟨line, hline, rfl⟩ := List.mem_map.1 h
  exact (Source.sound_read source).column base hline

theorem read_prepare (source : Text) (base : Nat) :
    Listing.read (prepare source base) =
      .ok ⟨if preparedLines source base = [] then none else some base, preparedLines source base, []⟩ := by
  have hall : ∀ u ∈ preparedLines source base, Tidy u ∧ CommentFree u := fun u hu => preparedLines_column hu
  have hplaced := placeAll_addressLines (l := Listing.empty) base 1 (.inr ⟨rfl, rfl⟩) hall
  rw [Listing.read, lines_prepare, listingLines_eq]
  simpa [Listing.empty] using hplaced

theorem isAddressListing_prepare {source : Text} {base : Nat} (h : preparedLines source base ≠ []) :
    isAddressListing (prepare source base) = true := by
  obtain ⟨u, us, hcons⟩ := List.exists_cons_of_ne_nil h
  have hu : u ∈ preparedLines source base := by simp [hcons]
  obtain ⟨ht, hc⟩ := preparedLines_column hu
  rw [isAddressListing, lines_prepare, listingLines_eq, hcons, List.mapIdx_cons, List.any_cons,
    lineRead_addressLine _ ht hc]
  rfl

end Stepper.Asm
