import Mathlib.Data.List.Induction
import Stepper.Proofs.Text.Layout
import Stepper.Asm.Listing

/-! Address columns. The lines of a listing file fill slots, some with an address in front; a file whose first slot has
one is read only if all the addresses are those of their slots, counted from it. Where the first slot has none,
nothing of the columns goes into what is read. -/

namespace Stepper.Asm

open Numeral Text Unicode

/-- An addressed line is an address, a colon, blanks, eight digits and blanks, and the instruction is what stands behind
them. -/
theorem addressColumns?_eq_some {line instruction : Text} {a : Nat} (h : addressColumns? line = some (a, instruction)) :
    ∃ address gap code gap', (∀ c ∈ address, isHexDigit c = true) ∧ AllBlank gap ∧ (∀ c ∈ code, isHexDigit c = true) ∧
      AllBlank gap' ∧ line = address ++ ([':'] ++ (gap ++ (code ++ (gap' ++ instruction)))) ∧ instruction ≠ [] ∧
      ∀ c ∈ instruction.head?, isBlank c = false := by
  have hline := List.takeWhile_append_dropWhile (p := isHexDigit) (l := line)
  unfold addressColumns? at h
  dsimp only at h
  split at h
  · next d ds blank rest hdigits hbehind =>
    split at h
    · next hcols =>
      simp only [Bool.and_eq_true, List.isEmpty_eq_false_iff, Bool.not_eq_true'] at hcols
      obtain ⟨⟨⟨⟨hblank, -⟩, hcode⟩, -⟩, ne⟩ := hcols
      obtain ⟨-, rfl⟩ := Prod.mk.inj (Option.some.inj h)
      obtain ⟨gap, hgap, hrest⟩ := exists_trimStart rest
      obtain ⟨gap', hgap', hcolumn⟩ := exists_trimStart ((trimStart rest).drop 8)
      refine ⟨line.takeWhile isHexDigit, blank :: gap, (trimStart rest).take 8, gap',
        fun c hc => List.mem_takeWhile_imp hc, List.forall_mem_cons.2 ⟨hblank, hgap⟩, List.all_eq_true.1 hcode, hgap', ?_, ne,
        head_trimStart _⟩
      rw [← hcolumn, List.take_append_drop]
      conv_lhs => rw [← hline, hbehind, hrest]
      rfl
    · simp at h
  · simp at h

/-- What a line is, by what stands on it without its comment and the blanks around it. -/
inductive Line.Reads : Text → Line → Prop
  | blank : Reads [] .blank
  | addressed {line instruction : Text} {a : Nat} (columns : addressColumns? line = some (a, instruction)) :
    Reads line (.addressed a instruction)
  | labelled {line name rest : Text} (columns : addressColumns? line = none) (label : labelled? line = some (name, rest)) :
    Reads line (.labelled (lower name) rest)
  | plain {line : Text} (ne : line ≠ []) (columns : addressColumns? line = none) (label : labelled? line = none) :
    Reads line (.plain line)

theorem Line.reads_read (raw : Text) : Line.Reads (trim (stripComment raw)) (Line.read raw) := by
  unfold Line.read
  cases trim (stripComment raw) with
  | nil => exact .blank
  | cons c rest =>
    dsimp only
    cases hcolumns : addressColumns? (c :: rest) with
    | some columns => exact .addressed hcolumns
    | none =>
      cases hlabel : labelled? (c :: rest) with
      | some l => exact .labelled hcolumns hlabel
      | none => exact .plain (by simp) hcolumns hlabel

/-- What a line of a file puts into the code: its address column, if it has one, and its instruction. -/
structure Slot where
  column : Option Nat
  instruction : Text
  deriving DecidableEq, Repr

def Line.slot? : Line → Option Slot
  | blank => none
  | addressed address instruction => some ⟨some address, instruction⟩
  | labelled _ rest => if rest.isEmpty then none else some ⟨none, rest⟩
  | plain instruction => some ⟨none, instruction⟩

def slots (raws : List Text) : List Slot :=
  raws.filterMap fun raw => (Line.read raw).slot?

/-- The address column of the first instruction. -/
def firstColumn? (ss : List Slot) : Option Nat :=
  ss.head?.bind (·.column)

/-- Every address column holds the address of its slot, for code that starts at `start`. -/
def Truthful (start : Int) (ss : List Slot) : Prop :=
  ∀ (i : Nat) (s : Slot) (a : Nat), ss[i]? = some s → s.column = some a → (a : Int) = start + i * instructionSize

theorem Truthful.snoc {start : Int} {ss : List Slot} (h : Truthful start ss) {s : Slot}
    (hs : ∀ a, s.column = some a → (a : Int) = start + ss.length * instructionSize) : Truthful start (ss ++ [s]) := by
  intro i s' a hi ha
  by_cases hlast : i < ss.length
  · rw [List.getElem?_append_left hlast] at hi
    exact h i s' a hi ha
  · rw [List.getElem?_append_right (Nat.not_lt.1 hlast), List.getElem?_singleton] at hi
    split at hi
    · next hzero =>
      obtain rfl := Option.some.inj hi
      obtain rfl : i = ss.length := by omega
      exact hs a ha
    · simp at hi

theorem firstColumn?_snoc (ss : List Slot) (s : Slot) :
    firstColumn? (ss ++ [s]) = if ss = [] then s.column else firstColumn? ss := by
  cases ss <;> simp [firstColumn?]

namespace Listing

/-- A listing that some slots have filled. -/
structure Filled (l : Listing) (ss : List Slot) : Prop where
  lines : l.lines = ss.map fun s => unwords (words s.instruction)
  codeStart : l.codeStart = (firstColumn? ss).map fun a : Nat => (a : Int)
  truthful : ∀ a : Nat, firstColumn? ss = some a → Truthful a ss

theorem filled_empty : empty.Filled [] :=
  ⟨rfl, rfl, by simp [firstColumn?]⟩

theorem Filled.length {l : Listing} {ss : List Slot} (h : l.Filled ss) : l.lines.length = ss.length := by
  rw [h.lines, List.length_map]

/-- One more slot is filled; if the code has a start then, its column is counted from there. -/
theorem Filled.snoc {l l' : Listing} {ss : List Slot} (h : l.Filled ss) {s : Slot}
    (hlines : l'.lines = l.lines ++ [unwords (words s.instruction)])
    (hstart : l'.codeStart = (firstColumn? (ss ++ [s])).map fun a : Nat => (a : Int))
    (hcolumn : ∀ a c : Nat, firstColumn? (ss ++ [s]) = some a → s.column = some c →
      (c : Int) = a + ss.length * instructionSize) :
    l'.Filled (ss ++ [s]) := by
  refine ⟨by simp [hlines, h.lines], hstart, fun a ha => ?_⟩
  have hbefore : Truthful a ss := by
    by_cases hnil : ss = []
    · simp [Truthful, hnil]
    · rw [firstColumn?_snoc, if_neg hnil] at ha
      exact h.truthful a ha
  exact hbefore.snoc fun c hc => hcolumn a c ha hc

theorem Filled.label {l : Listing} {ss : List Slot} (h : l.Filled ss) (labels : List (Text × Int)) :
    Filled { l with labels := labels } ss :=
  ⟨h.lines, h.codeStart, h.truthful⟩

/-- A line without an address column goes into the next slot. -/
theorem Filled.push {l : Listing} {ss : List Slot} (h : l.Filled ss) (instruction : Text) :
    (l.push instruction).Filled (ss ++ [⟨none, instruction⟩]) := by
  refine h.snoc rfl ?_ (by simp)
  rw [firstColumn?_snoc]
  split
  · next hnil =>
    subst hnil
    exact h.codeStart
  · exact h.codeStart

/-- A line with an address column is placed only at its own address, once the code has a start. -/
theorem Filled.place_addressed {l l' : Listing} {ss : List Slot} (h : l.Filled ss) {lineNo : Nat} {raw instruction : Text}
    {address : Nat} (hread : Line.read raw = .addressed address instruction) (hl : l.place lineNo raw = .ok l') :
    l'.Filled (ss ++ [⟨some address, instruction⟩]) := by
  have hstart := h.codeStart
  rw [Listing.place, hread] at hl
  dsimp only at hl
  by_cases hnil : ss = []
  · -- the address of the first slot becomes the start of the code
    subst hnil
    have hlines : l.lines = [] := h.lines
    have hnone : l.codeStart = none := hstart
    simp only [hnone, hlines, Option.isNone_none, List.isEmpty_nil, Bool.and_self, if_true] at hl
    split at hl
    · obtain rfl := Except.ok.inj hl
      exact h.snoc (by simp [Listing.push, hlines]) rfl (by simp [firstColumn?])
    · simp at hl
  · have hfull : l.lines.isEmpty = false := by simpa [h.lines] using hnil
    have hfirst := firstColumn?_snoc ss ⟨some address, instruction⟩
    rw [if_neg hnil] at hfirst
    simp only [hfull, Bool.and_false, Bool.false_eq_true, if_false] at hl
    split at hl
    · next hnone =>
      obtain rfl := Except.ok.inj hl
      have hcolumn : firstColumn? ss = none := by simpa [hstart] using hnone
      exact h.snoc rfl (by rw [hfirst]; exact hstart) (by simp [hfirst, hcolumn])
    · next start hsome =>
      split at hl
      · next haddress =>
        obtain rfl := Except.ok.inj hl
        refine h.snoc rfl (by rw [hfirst]; exact hstart) fun a c ha hc => ?_
        rw [hfirst] at ha
        rw [hstart, ha] at hsome
        obtain rfl : (a : Int) = start := Option.some.inj hsome
        obtain rfl := Option.some.inj hc
        rw [haddress, nextAddress, h.length]
      · simp at hl

theorem Filled.place {l l' : Listing} {ss : List Slot} (h : l.Filled ss) {lineNo : Nat} {raw : Text}
    (hl : l.place lineNo raw = .ok l') : l'.Filled (ss ++ (Line.read raw).slot?.toList) := by
  cases hread : Line.read raw with
  | addressed address instruction => exact h.place_addressed hread hl
  | blank =>
    rw [Listing.place, hread] at hl
    obtain rfl := Except.ok.inj hl
    simpa [Line.slot?] using h
  | plain instruction =>
    rw [Listing.place, hread] at hl
    obtain rfl := Except.ok.inj hl
    exact h.push instruction
  | labelled name rest =>
    rw [Listing.place, hread] at hl
    dsimp only at hl
    split at hl
    · simp at hl
    · obtain rfl := Except.ok.inj hl
      cases rest with
      | nil => simpa [Line.slot?] using h.label _
      | cons c t => exact (h.label _).push _

theorem Filled.placeAll {raws : List Text} {l l' : Listing} {ss : List Slot} (h : l.Filled ss) {lineNo : Nat}
    (hl : l.placeAll lineNo raws = .ok l') : l'.Filled (ss ++ slots raws) := by
  induction raws generalizing l ss lineNo with
  | nil =>
    obtain rfl := Except.ok.inj hl
    simpa [slots] using h
  | cons raw raws ih =>
    unfold Listing.placeAll at hl
    cases hplace : l.place lineNo raw with
    | error cause => simp [hplace, bind, Except.bind] at hl
    | ok l₁ =>
      simp only [hplace, bind, Except.bind] at hl
      have hrest := ih (h.place hplace) hl
      rw [List.append_assoc] at hrest
      have hslots : slots (raw :: raws) = (Line.read raw).slot?.toList ++ slots raws := by
        unfold slots
        rw [List.filterMap_cons]
        cases (Line.read raw).slot? <;> rfl
      rwa [hslots]

/-- A listing that is read holds the instructions of its slots, starts at the column of the first one, and if that
one has a column then all columns are truthful. -/
theorem filled_of_read {text : Text} {l : Listing} (h : read text = .ok l) : l.Filled (slots (Text.lines text)) := by
  simpa using filled_empty.placeAll h

/-- A file whose first slot has a column is refused if the columns do not follow each other. -/
theorem refused_of_not_truthful {text : Text} {a : Nat} (hfirst : firstColumn? (slots (Text.lines text)) = some a)
    (h : ¬ Truthful a (slots (Text.lines text))) : ∃ cause, read text = .error cause := by
  cases hread : read text with
  | error cause => exact ⟨cause, rfl⟩
  | ok l => exact absurd ((filled_of_read hread).truthful a hfirst) h

end Listing

end Stepper.Asm
