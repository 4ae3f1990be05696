import Mathlib.Data.Nat.Digits.Defs
import Stepper.Proofs.Session.CodeView
import Stepper.Proofs.Session.Failure

/-! The views as slices of what there is. The view of the code is a slice of the listing, and the view of the stack is the
tail of its words, wherever the program counter is and whatever the sizes are. -/

namespace Stepper

open Asm

theorem valueOfBytes_eq_ofDigits (bytes : List UInt8) : valueOfBytes bytes = Nat.ofDigits 256 (bytes.map UInt8.toNat) := by
  induction bytes with
  | nil => rfl
  | cons b bytes ih => rw [valueOfBytes, ih, List.map_cons, Nat.ofDigits_cons]

namespace Session

variable {s : Session} {i : Nat}

/-! ### Code -/

/-- The row of a line, without text if there is no such line. -/
def codeLine (s : Session) (i : Nat) : CodeLine :=
  ⟨i, s.machine.codeStart + i * instructionSize, s.machine.code[i]?.getD [], s.currentIndex = some (i : Int)⟩

theorem codeLine?_of_lt (h : i < s.machine.code.length) : s.codeLine? i = some (s.codeLine i) := by
  simp [codeLine?, codeLine, List.getElem?_eq_getElem h]

theorem within_codeWindow (s : Session) : s.codeWindow.Within s.machine.code.length := by
  unfold codeWindow
  split
  · exact Window.within_empty _
  · exact Window.within_around _ _ _ _

theorem codeInView_eq (s : Session) : s.codeInView = s.codeWindow.indices.map s.codeLine :=
  List.filterMap_eq_map_iff_forall_eq_some.2 fun _ hi => codeLine?_of_lt (s.within_codeWindow.lt_of_mem hi)

theorem allCode_eq (h : s.initialized = true) : s.allCode = (List.range s.machine.code.length).map s.codeLine := by
  rw [allCode, if_pos h]
  exact List.filterMap_eq_map_iff_forall_eq_some.2 fun _ hi => codeLine?_of_lt (List.mem_range.1 hi)

theorem allCode_of_unready (h : s.initialized = false) : s.allCode = [] := by
  rw [allCode, h]
  rfl

theorem codeInView_of_unready (h : s.initialized = false) : s.codeInView = [] := by
  have hindex : s.currentIndex = none := by simp [currentIndex, h]
  rw [codeInView_eq, codeWindow, hindex]
  rfl

theorem codeInView_eq_slice (s : Session) :
    s.codeInView = (s.allCode.drop s.codeWindow.start.toNat).take s.codeWindow.count.toNat := by
  cases h : s.initialized with
  | false => rw [codeInView_of_unready h, allCode_of_unready h, List.drop_nil, List.take_nil]
  | true => rw [codeInView_eq, allCode_eq h, s.within_codeWindow.indices_eq, List.map_take, List.map_drop]

theorem length_filter_current_allCode (s : Session) : (s.allCode.filter (·.current)).length ≤ 1 := by
  unfold allCode
  split
  · exact s.length_filter_current_le_one List.nodup_range
  · exact Nat.zero_le 1

/-! ### Stack -/

theorem within_stackWindow (s : Session) : s.stackWindow.Within s.machine.cpu.region.wordCount := by
  unfold stackWindow
  split
  · exact Window.within_tail _ _
  · exact Window.within_empty _

theorem stackRows_of_unready (h : s.initialized = false) : s.stackRows = [] := by
  rw [stackRows, stackWindow, h]
  rfl

theorem map_index_stackRows (h : s.initialized = true) :
    s.stackRows.map (·.index) =
      (List.range s.machine.cpu.region.wordCount).drop (s.machine.cpu.region.wordCount - s.layout.stackLines.toNat) := by
  rw [stackRows, stackWindow, if_pos h, Window.indices_tail, List.map_map]
  exact List.map_id _

theorem mem_stackRows (h : s.initialized = true) (hi : i < s.machine.cpu.region.wordCount)
    (htail : s.machine.cpu.region.wordCount - s.layout.stackLines.toNat ≤ i) :
    ⟨i, s.machine.cpu.region.addressOf i, s.machine.cpu.region.wordAtIndex i⟩ ∈ s.stackRows := by
  have hindex : i ∈ s.stackWindow.indices := by
    rw [stackWindow, if_pos h, Window.indices_tail, List.mem_drop_iff_getElem]
    exact ⟨i - (s.machine.cpu.region.wordCount - s.layout.stackLines.toNat), by simp; omega, by simp; omega⟩
  exact List.mem_map_of_mem hindex

/-- No word is looked for that is not there. -/
theorem word_of_mem_stackWindow (hi : i ∈ s.stackWindow.indices) :
    s.machine.cpu.region.word i = .ok (s.machine.cpu.region.wordAtIndex i) := by
  have hcount : (i : Int) < s.machine.cpu.region.wordCount := by
    exact_mod_cast s.within_stackWindow.lt_of_mem hi
  rw [StackRegion.word, StackRegion.checkIndex, if_pos ⟨Int.natCast_nonneg i, hcount⟩]
  rfl

theorem wordCount_of_filled {c : Cpu} (hc : c.Filled) :
    c.region.wordCount = ((c.stackTop - c.stackBottom) / Word.bytes).toNat := by
  rw [Cpu.wordCount_region hc, ← hc]
  exact (Int.toNat_natCast (c.stack.length / Word.bytes)).symm

end Session

open Session

/-- In every session that is reached, no view looks for a line or for a word that is not there. The code in view is the
slice of the whole code that the window says, line by line with the address of its slot, and at most one line is
marked. Once a program is loaded the stack in view is the tail of its whole words, in their order, each with its
address and the value of its eight bytes, the lowest first; before that, and after a load that failed, it is empty. -/
theorem views_are_slices (stackSize : Int) (layout : Layout) (commands : List Command) :
    let s := reached stackSize layout commands
    let c := s.machine.cpu
    let words := ((c.stackTop - c.stackBottom) / Word.bytes).toNat
    s.codeWindow.indices.map s.codeLine? = s.codeInView.map some ∧
    (∀ i ∈ s.stackWindow.indices, c.region.word i = .ok (c.region.wordAtIndex i)) ∧
    (0 ≤ s.codeWindow.start ∧ 0 ≤ s.codeWindow.count ∧
      s.codeInView = (s.allCode.drop s.codeWindow.start.toNat).take s.codeWindow.count.toNat) ∧
    (∀ row ∈ s.allCode, row.address = s.machine.codeStart + row.index * instructionSize ∧
      s.machine.code[row.index]? = some row.text ∧ (row.current = true ↔ s.currentIndex = some (row.index : Int))) ∧
    (s.allCode.filter (·.current)).length ≤ 1 ∧
    (s.initialized = true →
      s.allCode.map (·.index) = List.range s.machine.code.length ∧
      s.stackRows.map (·.index) = (List.range words).drop (words - layout.stackLines.toNat) ∧
      ∀ row ∈ s.stackRows, row.address = c.stackBottom + row.index * Word.bytes ∧
        row.value = Nat.ofDigits 256 (((c.stack.drop (row.index * Word.bytes)).take Word.bytes).map UInt8.toNat)) ∧
    (s.initialized = false → s.stackRows = []) := by
  intro s c words
  refine ⟨?_, fun i hi => word_of_mem_stackWindow hi,
    ⟨s.within_codeWindow.start, s.within_codeWindow.count, s.codeInView_eq_slice⟩, ?_, s.length_filter_current_allCode,
    fun hready => ⟨?_, ?_, ?_⟩, fun hready => stackRows_of_unready hready⟩
  · rw [codeInView_eq, List.map_map]
    exact List.map_congr_left fun i hi => codeLine?_of_lt (s.within_codeWindow.lt_of_mem hi)
  · intro row hrow
    cases hready : s.initialized with
    | false => simp [allCode_of_unready hready] at hrow
    | true =>
      rw [allCode_eq hready] at hrow
      obtain ⟨i, hi, rfl⟩ := List.mem_map.1 hrow
      have hline := List.getElem?_eq_getElem (List.mem_range.1 hi)
      exact ⟨rfl, by simp [codeLine, hline], decide_eq_true_iff⟩
  · rw [allCode_eq hready, List.map_map]
    exact List.map_id _
  · have hfilled : c.Filled := (sound_reached stackSize layout commands).filled hready
    have hlayout : s.layout = layout := runs_layout _ _
    rw [map_index_stackRows hready, wordCount_of_filled hfilled, hlayout]
  · intro row hrow
    obtain ⟨i, -, rfl⟩ := List.mem_map.1 hrow
    exact ⟨rfl, valueOfBytes_eq_ofDigits _⟩

/-- Two of three lines, and the upper of the two whole words of twenty bytes. -/
theorem narrow_views_are_slices :
    let s := reached 20 { Layout.standard with codeLines := 2, stackLines := 1 } [.load threeLinesDevice threeLinesRequest]
    s.initialized = true ∧ s.codeInView = s.allCode.take 2 ∧ s.stackRows.map (·.index) = [1] ∧
      ∀ row ∈ s.stackRows, row.address = 0x7fec + row.index * Word.bytes := by
  intro s
  obtain ⟨-, hready, -, hmachine⟩ : _ ∧ s.initialized = true ∧ _ ∧ s.machine = _ :=
    (create (Emulator.create 20) _).load_of_program? (r := threeLinesRequest) program?_threeLines
      (by decide) (by decide) (by decide)
  obtain ⟨-, -, ⟨-, -, hslice⟩, -, -, hloaded, -⟩ :=
    views_are_slices 20 { Layout.standard with codeLines := 2, stackLines := 1 } [.load threeLinesDevice threeLinesRequest]
  obtain ⟨-, htail, hrows⟩ := hloaded hready
  have hindex : s.currentIndex = some 1 := by
    rw [currentIndex, if_pos hready, pc, hmachine]
    decide
  have hlayout : s.layout = _ := runs_layout _ _
  have hwindow : s.codeWindow = ⟨0, 2⟩ := by
    rw [codeWindow, hindex, hlayout, hmachine]
    decide
  have hbounds : s.machine.cpu.stackTop = 0x8000 ∧ s.machine.cpu.stackBottom = 0x7fec := by
    rw [hmachine]
    decide
  refine ⟨hready, ?_, ?_, fun row hrow => ?_⟩
  · rw [hwindow] at hslice
    exact hslice
  · rw [hbounds.1, hbounds.2] at htail
    exact htail
  · rw [(hrows row hrow).1, hbounds.2]

/-! ### A session that is not ready -/

theorem lastSlot_since : (reached 0x100 Layout.standard [.load lastSlotDevice lastSlotRequest]).machine.cpu.Since 0x8000 0x100 := by
  obtain ⟨hat, -⟩ := atLine_lastSlot
  obtain ⟨r, hr, hsince⟩ := (sound_reached 0x100 Layout.standard [.load lastSlotDevice lastSlotRequest]).since hat.ready
  obtain rfl : r = lastSlotRequest := Option.some.inj (hr.symm.trans hat.request)
  exact hsince

/-- After a load that failed the bounds are still around the words of the last program, and none of them is in view. -/
theorem failed_load_hides_stack :
    let s := reached 0x100 Layout.standard [.load lastSlotDevice lastSlotRequest, .load lastSlotDevice missingRequest]
    let words := ((s.machine.cpu.stackTop - s.machine.cpu.stackBottom) / Word.bytes).toNat
    words = 32 ∧ s.stackRows = [] ∧
      s.stackRows.map (·.index) ≠ (List.range words).drop (words - Layout.standard.stackLines.toNat) := by
  intro s words
  let before := reached 0x100 Layout.standard [.load lastSlotDevice lastSlotRequest]
  have hfails : before.Fails (.load lastSlotDevice missingRequest) lastSlotDevice missingRequest :=
    fails_iff.2 ⟨rfl, (before.machine.load_of_none _ (by decide)).2⟩
  have hsize : before.machine.stackSize = 0x100 := (sound_reached 0x100 Layout.standard _).size
  have hs : s = { before with initialized := false } :=
    after_of_fails_of_room hfails (by decide) (by rw [hsize]; decide) (by rw [hsize]; decide)
  have hbounds : s.machine.cpu.stackTop = 0x8000 ∧ s.machine.cpu.stackBottom = 0x7f00 := by
    rw [hs]
    exact ⟨lastSlot_since.top, lastSlot_since.bottom⟩
  have hwords : words = 32 := by simp [words, hbounds, Word.bytes]
  have hrows : s.stackRows = [] := stackRows_of_unready (by rw [hs])
  refine ⟨hwords, hrows, ?_⟩
  rw [hrows, hwords]
  decide

end Stepper
