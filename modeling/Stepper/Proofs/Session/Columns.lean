import Stepper.Proofs.Asm.Columns
import Stepper.Proofs.Session.Program
import Stepper.Session.Views

/-! Where the lines of a listing file stand. A line stands at the start of the code plus the size of the lines in front
of it; that is the address in its column if the first instruction of the file has a column, and otherwise by chance. -/

namespace Stepper

open Asm Text Unicode

/-- A line of the code stands at an address: it is shown with it, it is run from there, and the labels in front of the
line mean it. -/
structure Session.StandsAt (s : Session) (i : Nat) (line : Text) (a : Int) : Prop where
  shown : s.codeLine? i = some ⟨i, a, line, s.currentIndex = some (i : Int)⟩
  fetched : s.initialized = true → ∀ r, s.request = some r → s.pc = a → a ≠ r.pcEnd → s.AtLine r line
  labelled : ∀ name, s.machine.listing.labels.lookup (lower name) = some (i : Int) →
    s.machine.listing.labelAddress? name = some a

theorem Session.standsAt {s : Session} {i : Nat} {line : Text} {start : Int}
    (hstart : s.machine.listing.codeStart = some start) (hline : s.machine.code[i]? = some line) :
    s.StandsAt i line (start + i * instructionSize) := by
  have hcode : s.machine.codeStart = start := by simp [Emulator.codeStart, hstart]
  have hlen : i < s.machine.code.length := (List.getElem?_eq_some_iff.1 hline).1
  refine ⟨by simp [codeLine?, hline, hcode], fun hready r hr hpc hend => ?_, fun name hname => ?_⟩
  · have hindex : s.index = i := by
      rw [index, hpc, hcode]
      simp only [instructionSize]
      omega
    refine ⟨hready, hr, hpc ▸ hend, ?_, by rw [hindex]; exact hline⟩
    unfold Outside
    rw [hindex, hpc, hcode]
    simp only [instructionSize]
    omega
  · simp [Listing.labelAddress?, hname, hstart]

namespace Emulator

variable {d : Device} {path text : Text} {pcStart : Int} {l : Listing}

/-- The slots of a file that are kept in the code. -/
def keptSlots (text : Text) : List Slot :=
  (slots (Text.lines text)).take maxLines

/-- A program from a file with address columns holds the slots that are kept, and starts at the first column or else at
the entry point. -/
theorem program?_of_addressed (htext : readText d path = .ok text) (haddressed : isAddressListing text = true)
    (h : program? d path pcStart = some l) :
    l.lines = (keptSlots text).map (fun s => unwords (words s.instruction)) ∧
      l.codeStart = some (((firstColumn? (slots (Text.lines text))).map fun a : Nat => (a : Int)).getD pcStart) ∧
      ∀ a, firstColumn? (slots (Text.lines text)) = some a → Truthful a (slots (Text.lines text)) := by
  have hlist : (listingOf path text pcStart).2 = Listing.read text := by rw [listingOf, if_pos haddressed]
  cases hread : Listing.read text with
  | error cause => simp [program?, htext, hlist, hread, Except.toOption] at h
  | ok l₀ =>
    rw [program?_of_listing htext (hlist.trans hread)] at h
    obtain rfl := Option.some.inj h
    have hfilled := Listing.filled_of_read hread
    have hkept : (trimListing (anchor pcStart l₀)).2.lines = l₀.lines.take maxLines ∧
        (trimListing (anchor pcStart l₀)).2.codeStart = some (l₀.codeStart.getD pcStart) := by
      unfold trimListing
      split
      · exact ⟨rfl, rfl⟩
      · next hshort => exact ⟨(List.take_of_length_le (Nat.not_lt.1 hshort)).symm, rfl⟩
    refine ⟨?_, ?_, hfilled.truthful⟩
    · rw [hkept.1, hfilled.lines, keptSlots, List.map_take]
    · rw [hkept.2, hfilled.codeStart]

/-- A file that can be read, and whose first instruction has a column that the others do not follow, is refused. -/
theorem load_refused_of_not_truthful (e : Emulator) (spStart : Int) (htext : readText d path = .ok text)
    (haddressed : isAddressListing text = true) {a : Nat} (hfirst : firstColumn? (slots (Text.lines text)) = some a)
    (h : ¬ Truthful a (slots (Text.lines text))) :
    (e.load d path pcStart spStart).state = e ∧
      ∃ cause, (e.load d path pcStart spStart).result = .error (.refused cause) := by
  obtain ⟨cause, hread⟩ := Listing.refused_of_not_truthful hfirst h
  have hlist : (listingOf path text pcStart).2 = .error cause := by rw [listingOf, if_pos haddressed, hread]
  simp [load, htext, hlist, Outcome.error]

end Emulator

theorem Asm.Truthful.take {start : Int} {ss : List Slot} (h : Truthful start ss) (n : Nat) : Truthful start (ss.take n) := by
  intro i s a hi ha
  rw [List.getElem?_take] at hi
  split at hi
  · exact h i s a hi ha
  · simp at hi

open Emulator

/-- When a file with address columns is loaded, the columns of the lines that are kept are the addresses at which the lines
stand, if and only if the first instruction of the file has a column or the columns happen to be counted from the
entry point. A file whose first instruction has a column that the others do not follow is refused. -/
theorem columns_are_addresses_iff {d : Device} {path text : Text} (pcStart : Int) (htext : readText d path = .ok text)
    (haddressed : isAddressListing text = true) (e : Emulator) (spStart : Int) :
    let first := firstColumn? (slots (Text.lines text))
    let loaded := e.load d path pcStart spStart
    (loaded.result = .ok () →
      (Truthful loaded.state.codeStart (keptSlots text) ↔ first.isSome = true ∨ Truthful pcStart (keptSlots text)) ∧
      ∀ i slot, (keptSlots text)[i]? = some slot → ∀ s : Session, s.machine.listing = loaded.state.listing →
        s.StandsAt i (unwords (words slot.instruction)) (loaded.state.codeStart + i * instructionSize)) ∧
    ∀ a : Nat, first = some a → ¬ Truthful a (slots (Text.lines text)) →
      loaded.state = e ∧ ∃ cause, loaded.result = .error (.refused cause) := by
  intro first loaded
  refine ⟨fun hok => ?_, fun a hfirst h => e.load_refused_of_not_truthful spStart htext haddressed hfirst h⟩
  obtain ⟨l, hprogram⟩ : ∃ l, program? d path pcStart = some l := by
    cases hprogram : program? d path pcStart with
    | none =>
      obtain ⟨-, cause, hcause⟩ := e.load_of_none spStart hprogram
      rw [hcause] at hok
      simp at hok
    | some l => exact ⟨l, rfl⟩
  obtain ⟨hlines, hstart, htruthful⟩ := program?_of_addressed htext haddressed hprogram
  have hlisting : loaded.state.listing = l := by rw [(e.load_of_program? spStart hprogram).1]
  have hcode : loaded.state.codeStart = (first.map fun a : Nat => (a : Int)).getD pcStart := by
    simp [Emulator.codeStart, hlisting, hstart, first]
  refine ⟨?_, fun i slot hslot s hs => ?_⟩
  · rw [hcode]
    cases hfirst : first with
    | none => simp
    | some a => simpa [keptSlots] using (htruthful a hfirst).take maxLines
  · rw [hcode]
    refine Session.standsAt (by rw [hs, hlisting, hstart]) ?_
    rw [Emulator.code, hs, hlisting, hlines, List.getElem?_map, hslot]
    rfl

/-- A label and a line without columns stand between two lines with columns. -/
def gapText : Text := "1000: 00000000   nop\n\nloop: nop\n1008: 00000000   b loop\n"

def gapDevice : Device where
  working := "/"
  scratch := []
  room := 0x10000
  depth := 100
  nodes := [(["gap.lst".toList], .file (Utf8.encode gapText))]

theorem lines_gapText : lines gapText =
    ["1000: 00000000   nop".toList, [], "loop: nop".toList, "1008: 00000000   b loop".toList] := by
  decide

theorem read_gapText :
    Line.read "1000: 00000000   nop" = .addressed 0x1000 "nop" ∧ Line.read [] = .blank ∧
      Line.read "loop: nop" = .labelled "loop" "nop" ∧ Line.read "1008: 00000000   b loop" = .addressed 0x1008 "b loop" := by
  have hstrip : ∀ line ∈ lines gapText, stripComment line = line := by
    rw [lines_gapText]
    intro line hline
    refine stripComment_of_commentFree ?_
    revert line
    unfold CommentFree
    decide
  rw [lines_gapText] at hstrip
  refine ⟨?_, ?_, ?_, ?_⟩
  · rw [Line.read, hstrip _ (by decide)]
    rfl
  · rw [Line.read, hstrip _ (by decide)]
    rfl
  · rw [Line.read, hstrip _ (by decide)]
    rfl
  · rw [Line.read, hstrip _ (by decide)]
    rfl

theorem slots_gapText : slots (lines gapText) = [⟨some 0x1000, "nop"⟩, ⟨none, "nop"⟩, ⟨some 0x1008, "b loop"⟩] := by
  obtain ⟨hfirst, hblank, hlabel, hlast⟩ := read_gapText
  simp only [lines_gapText, slots, List.filterMap_cons, List.filterMap_nil, hfirst, hblank, hlabel, hlast]
  rfl

/-- The file is entered at its second line, and its third line still stands at its column. -/
theorem gap_columns_are_addresses :
    readText gapDevice "gap.lst" = .ok gapText ∧ isAddressListing gapText = true ∧
      let loaded := (create 0x100).load gapDevice "gap.lst" 0x1004 0x8000
      loaded.result = .ok () ∧ Truthful loaded.state.codeStart (keptSlots gapText) ∧
        (Session.create loaded.state Layout.standard).StandsAt 2 "b loop" 0x1008 := by
  have hread : readText gapDevice "gap.lst" = .ok gapText := readText_of_encoded (by decide) (by decide) (by decide)
  have haddressed : isAddressListing gapText = true := by
    rw [isAddressListing, lines_gapText, List.any_cons, read_gapText.1]
    rfl
  have hlist : (listingOf "gap.lst" gapText 0x1004).2 = .ok ⟨some 0x1000, ["nop", "nop", "b loop"], [("loop", 1)]⟩ := by
    obtain ⟨hfirst, hblank, hlabel, hlast⟩ := read_gapText
    rw [listingOf, if_pos haddressed]
    simp only [Listing.read, lines_gapText, Listing.placeAll, Listing.place, hfirst, hblank, hlabel, hlast]
    rfl
  refine ⟨hread, haddressed, ?_⟩
  intro loaded
  obtain ⟨hstate, hresult⟩ := (create 0x100).load_of_program? 0x8000 (program?_of_listing hread hlist)
  have hok : loaded.result = .ok () := by
    rw [hresult, reset_ok (by decide) (by decide) (by decide)]
    rfl
  have hstart : loaded.state.codeStart = 0x1000 := by
    rw [hstate]
    rfl
  obtain ⟨htruthful, hstands⟩ := (columns_are_addresses_iff 0x1004 hread haddressed (create 0x100) 0x8000).1 hok
  refine ⟨hok, htruthful.2 (.inl (by rw [slots_gapText]; rfl)), ?_⟩
  have hslot : (keptSlots gapText)[2]? = some ⟨some 0x1008, "b loop"⟩ := by
    rw [keptSlots, slots_gapText]
    rfl
  have := hstands 2 _ hslot (Session.create loaded.state Layout.standard) rfl
  rw [hstart] at this
  exact this

end Stepper
