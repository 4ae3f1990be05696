import Stepper.Proofs.Machine.Straight
import Stepper.Proofs.Session.Commit

/-! Runs without branches. From the line at the program counter to the end address every line is run once and in order,
the end is noticed after the last of them, and then nothing happens any more. -/

namespace Stepper

open Asm Text Operation

namespace Session

variable {s : Session} {r : LoadRequest} {line : Text} {lines : List Text} {e : Emulator} {i : Nat}

/-- The program counter is at the line of a number, and the code ends below the last word. -/
structure Stands (s : Session) (r : LoadRequest) (i : Nat) : Prop where
  ready : s.initialized = true
  request : s.request = some r
  pc : s.pc = s.machine.codeStart + i * instructionSize
  limit : s.machine.codeStart + s.machine.code.length * instructionSize < Word.limit

theorem Stands.atLine (h : s.Stands r i) (hline : s.machine.code[i]? = some line) (hrun : s.pc ≠ r.pcEnd) :
    s.AtLine r line := by
  have hi : i < s.machine.code.length := (List.getElem?_eq_some_iff.1 hline).1
  have hpc := h.pc
  have hindex : s.index = i := by
    unfold index
    unfold instructionSize at hpc ⊢
    omega
  refine ⟨h.ready, h.request, hrun, ?_, by rw [hindex]; exact hline⟩
  unfold Outside
  unfold instructionSize at hpc
  omega

/-- Where the address behind the line is not negative, the line runs with the program counter there. -/
theorem Stands.advanced_eq (h : s.Stands r i) (hi : i < s.machine.code.length) (hnonneg : 0 ≤ s.pc + instructionSize) :
    s.advanced = s.machine.goTo (s.pc + instructionSize) := by
  have hpc := h.pc
  have hlimit := h.limit
  have hword : s.pc + instructionSize < Word.limit := by
    unfold instructionSize at hpc hlimit ⊢
    omega
  rw [advanced, Word.wrap_of_range hnonneg hword]
  rfl

/-- A line that does not branch is left for the next one. -/
theorem Stands.next (h : s.Stands r i) (hrun : (s.machine.goTo (s.pc + instructionSize)).run line = .ok e)
    (hline : ¬Branches line) :
    (s.withMachine e).pc = s.pc + instructionSize ∧ e.listing = s.machine.listing ∧ (s.withMachine e).Stands r (i + 1) := by
  obtain ⟨hpc, hlisting⟩ := Emulator.run_straight hrun hline
  have hpc' : (s.withMachine e).pc = s.pc + instructionSize :=
    hpc.trans ((s.machine.cpu.get_put .pc .pc _).trans (if_pos rfl))
  have hcode : e.code = s.machine.code := congrArg Listing.lines hlisting
  have hstart : e.codeStart = s.machine.codeStart := congrArg (fun l : Listing => l.codeStart.getD 0) hlisting
  refine ⟨hpc', hlisting, h.ready, h.request, ?_, ?_⟩
  · have hpc := h.pc
    rw [hpc']
    change _ = e.codeStart + _
    rw [hstart, hpc]
    push_cast
    ring
  · change e.codeStart + e.code.length * instructionSize < _
    rw [hstart, hcode]
    exact h.limit

/-- Lines in a row that do not branch and lead to the end. -/
theorem runs_lines (h : s.Stands r i) (hlines : lines <+: s.machine.code.drop i)
    (hend : r.pcEnd = s.pc + lines.length * instructionSize) (hnonneg : lines ≠ [] → 0 ≤ s.pc + instructionSize)
    (hplain : ∀ line ∈ lines, ¬Branches line) (hrun : s.machine.runFrom s.pc lines = .ok e) :
    (∀ k < lines.length, (s.runs (List.replicate k .step)).step.result =
      .ok ⟨true, decide (k + 1 = lines.length), some (s.pc + k * instructionSize), lines[k]?⟩) ∧
    s.runs (List.replicate lines.length .step) = s.withMachine e ∧ (s.withMachine e).pc = r.pcEnd := by
  induction lines generalizing s i with
  | nil =>
    obtain rfl := Except.ok.inj hrun
    refine ⟨fun k hk => absurd hk (Nat.not_lt_zero k), rfl, ?_⟩
    rw [hend]
    simp [withMachine]
  | cons line lines ih =>
    obtain ⟨e₁, hfirst, hrest⟩ := Emulator.runFrom_cons.1 hrun
    obtain ⟨behind, hbehind⟩ := hlines
    have hline : s.machine.code[i]? = some line := by
      have hhead : (s.machine.code.drop i)[0]? = some line := by rw [← hbehind]; rfl
      rwa [List.getElem?_drop, Nat.add_zero] at hhead
    have hsize : (instructionSize : Int) = 4 := rfl
    have hlength : ((line :: lines).length : Int) = lines.length + 1 := by simp
    have hnext := hnonneg (by simp)
    have hat : s.AtLine r line := h.atLine hline (by rw [hend, hlength, hsize]; omega)
    have hadvanced := h.advanced_eq (List.getElem?_eq_some_iff.1 hline).1 hnext
    obtain ⟨hstate, hresult⟩ := step_executed hat (hadvanced ▸ hfirst)
    obtain ⟨hpc, hlisting, hstands⟩ := h.next hfirst (hplain line (by simp))
    have hcode : e₁.code = s.machine.code := congrArg Listing.lines hlisting
    have hlines' : lines <+: (s.withMachine e₁).machine.code.drop (i + 1) := by
      change lines <+: e₁.code.drop (i + 1)
      rw [hcode, ← List.drop_drop, ← hbehind]
      exact ⟨behind, rfl⟩
    have hend' : r.pcEnd = (s.withMachine e₁).pc + lines.length * instructionSize := by
      rw [hpc, hend, hlength, hsize]
      ring
    obtain ⟨hsteps, hruns, hdone⟩ := ih hstands hlines' hend' (fun _ => by rw [hpc, hsize] at *; omega)
      (fun line hline => hplain line (by simp [hline])) (hpc ▸ hrest)
    have hhalted : (e₁.cpu.get .pc == r.pcEnd) = decide (0 + 1 = (line :: lines).length) := by
      have hlast : (s.withMachine e₁).pc = r.pcEnd ↔ 1 = lines.length + 1 := by
        rw [hend', hsize]
        omega
      rw [Bool.eq_iff_iff, beq_iff_eq, decide_eq_true_iff]
      exact hlast
    refine ⟨fun k hk => ?_, ?_, hdone⟩
    · cases k with
      | zero =>
        change s.step.result = _
        rw [hresult, hhalted]
        simp
      | succ k =>
        change (s.step.state.runs (List.replicate k .step)).step.result = _
        have haddress : s.pc + instructionSize + k * instructionSize = s.pc + ((k + 1 : Nat) : Int) * instructionSize := by
          push_cast
          ring
        have hlast : k + 1 = lines.length ↔ k + 1 + 1 = (line :: lines).length := by simp
        rw [hstate, hsteps k (by simpa using hk), hpc, haddress, decide_eq_decide.2 hlast, List.getElem?_cons_succ]
    · change s.step.state.runs (List.replicate lines.length .step) = _
      rw [hstate, hruns]
      rfl

end Session

open Session

/-- Lines that do not branch are run once each, in order, up to the end. Let the program counter be at line `i` and the
end at line `j` or behind it, with no branch among the lines from `i` to before `j`, none of which is refused when
they run one after the other; and let the address behind the first of them not be negative. Then just as many
steps execute, each of them the next line at its address, and only the last one reports the end. What they leave is
the machine that the lines make in a row, and no further step changes anything. -/
theorem straight_lines_run_in_order {s : Session} {r : LoadRequest} {i j : Nat} {e : Emulator}
    (hready : s.initialized = true) (hrequest : s.request = some r)
    (hpc : s.pc = s.machine.codeStart + i * instructionSize)
    (hend : r.pcEnd = s.machine.codeStart + j * instructionSize) (hij : i ≤ j) (hj : j ≤ s.machine.code.length)
    (hlimit : s.machine.codeStart + s.machine.code.length * instructionSize < Word.limit)
    (hnonneg : i < j → 0 ≤ s.pc + instructionSize)
    (hplain : ∀ k line, i ≤ k → k < j → s.machine.code[k]? = some line → ¬Branches line)
    (hrun : s.machine.runFrom s.pc ((s.machine.code.drop i).take (j - i)) = .ok e) :
    (∀ k < j - i, (s.runs (List.replicate k .step)).step.result =
      .ok ⟨true, decide (k + 1 = j - i), some (s.machine.codeStart + (i + k) * instructionSize), s.machine.code[i + k]?⟩) ∧
    s.runs (List.replicate (j - i) .step) = s.withMachine e ∧
    ∀ n, (s.withMachine e).runs (List.replicate n .step) = s.withMachine e ∧
      (s.withMachine e).step = .ok (s.withMachine e) [] ⟨false, true, some r.pcEnd, none⟩ := by
  let lines := (s.machine.code.drop i).take (j - i)
  have hlength : lines.length = j - i := by
    rw [List.length_take, List.length_drop]
    omega
  have hline : ∀ k < j - i, lines[k]? = s.machine.code[i + k]? := fun k hk => by
    rw [List.getElem?_take_of_lt hk, List.getElem?_drop]
  have hend' : r.pcEnd = s.pc + lines.length * instructionSize := by
    rw [hend, hpc, hlength]
    unfold instructionSize
    omega
  have hnonneg' : lines ≠ [] → 0 ≤ s.pc + instructionSize := fun hne => by
    have := List.length_pos_iff.2 hne
    exact hnonneg (by omega)
  have hplain' : ∀ line ∈ lines, ¬Branches line := by
    intro line hmem
    obtain ⟨k, hk, rfl⟩ := List.mem_iff_getElem.1 hmem
    refine hplain (i + k) _ (Nat.le_add_right i k) (by omega) ?_
    rw [← hline k (by omega), List.getElem?_eq_getElem hk]
  obtain ⟨hsteps, hruns, hdone⟩ :=
    runs_lines ⟨hready, hrequest, hpc, hlimit⟩ (List.take_prefix _ _) hend' hnonneg' hplain' hrun
  rw [hlength] at hsteps hruns
  have hhalted : (s.withMachine e).step = .ok (s.withMachine e) [] ⟨false, true, some r.pcEnd, none⟩ :=
    hdone ▸ step_halted (s := s.withMachine e) hready hrequest hdone
  refine ⟨fun k hk => ?_, hruns, fun n => ⟨runs_step_of_state (by rw [hhalted]; rfl) n, hhalted⟩⟩
  have haddress : s.pc + k * instructionSize = s.machine.codeStart + (i + k) * instructionSize := by
    rw [hpc]
    ring
  rw [hsteps k hk, hline k hk, haddress]

/-! ### A program that starts where it is loaded -/

/-- The first line takes the address that the program is entered at, whatever column follows. -/
def fallText : Text := "a: mov x0, #7\nadd x0, x0, #1\n0: 00000000   b a\n"

def fallDevice : Device where
  working := "/"
  scratch := []
  room := 0x10000
  depth := 100
  nodes := [(["fall.lst".toList], .file (Utf8.encode fallText))]

def fallRequest (pcStart pcEnd : Int) : LoadRequest := ⟨"fall.lst", pcStart, pcEnd, 0x8000⟩

def fallListing (pcStart : Int) : Listing :=
  ⟨some pcStart, ["mov x0, #7".toList, "add x0, x0, #1".toList, "b a".toList], [("a".toList, 0)]⟩

theorem program?_fall (pcStart : Int) : Emulator.program? fallDevice "fall.lst" pcStart = some (fallListing pcStart) := by
  have hread : Emulator.readText fallDevice "fall.lst" = .ok fallText :=
    Emulator.readText_of_encoded (by decide) (by decide) (by decide)
  have hlines : lines fallText =
      ["a: mov x0, #7".toList, "add x0, x0, #1".toList, "0: 00000000   b a".toList] := by decide
  have hstrip : ∀ line ∈ lines fallText, stripComment line = line := by
    rw [hlines]
    intro line hline
    refine stripComment_of_commentFree ?_
    revert line
    unfold CommentFree
    decide
  have hlist : (Emulator.listingOf "fall.lst" fallText pcStart).2 =
      .ok ⟨none, ["mov x0, #7", "add x0, x0, #1", "b a"], [("a", 0)]⟩ := by
    rw [hlines] at hstrip
    have hfirst := hstrip "a: mov x0, #7" (by decide)
    have hsecond := hstrip "add x0, x0, #1" (by decide)
    have hthird := hstrip "0: 00000000   b a" (by decide)
    have haddressed : isAddressListing fallText = true := by
      rw [isAddressListing, hlines]
      simp only [List.any_cons, Line.read, hfirst, hsecond, hthird]
      rfl
    rw [Emulator.listingOf, if_pos haddressed]
    simp only [Listing.read, hlines, Listing.placeAll, Listing.place, Line.read, hfirst, hsecond, hthird]
    rfl
  rw [Emulator.program?_of_listing hread hlist]
  rfl

theorem stripComment_fall (line : Text) (h : line ∈ (fallListing 0).lines) : stripComment line = line := by
  refine stripComment_of_commentFree ?_
  revert line
  unfold CommentFree
  decide

theorem read_fallMov : Instruction.read "mov x0, #7" 0 =
    .ok ⟨"mov x0, #7", "MOV", [⟨.reg 0, "x0"⟩, ⟨.imm 7, "#7"⟩]⟩ := by
  rw [Instruction.read, stripComment_fall "mov x0, #7" (by decide)]
  rfl

theorem read_fallAdd : Instruction.read "add x0, x0, #1" 0 =
    .ok ⟨"add x0, x0, #1", "ADD", [⟨.reg 0, "x0"⟩, ⟨.reg 0, "x0"⟩, ⟨.imm 1, "#1"⟩]⟩ := by
  rw [Instruction.read, stripComment_fall "add x0, x0, #1" (by decide)]
  rfl

theorem read_fallBranch : Instruction.read "b a" 0 = .ok ⟨"b a", "B", [⟨.label "a", "a"⟩]⟩ := by
  rw [Instruction.read, stripComment_fall "b a" (by decide)]
  rfl

theorem run_fallMov (e : Emulator) : e.run "mov x0, #7" = .ok { e with cpu := e.cpu.setReg 0 7 } := by
  have hop : named? "MOV" = some .mov := by decide
  refine Emulator.run_of_finishes read_fallMov hop ?_
  rw [Operation.run, finishes_get_bind, finishes_lift_bind]
  exact ⟨7, rfl, finishes_modify.2 rfl⟩

theorem run_fallAdd (e : Emulator) :
    e.run "add x0, x0, #1" = .ok { e with cpu := e.cpu.setReg 0 (e.cpu.get 0 + 1) } := by
  have hop : named? "ADD" = some (.arithmetic .add) := by decide
  refine Emulator.run_of_finishes read_fallAdd hop ?_
  rw [Operation.run, finishes_get_bind, finishes_lift_bind]
  refine ⟨e.cpu.get 0, rfl, ?_⟩
  rw [finishes_get_bind, finishes_lift_bind]
  exact ⟨1, rfl, finishes_modify.2 rfl⟩

theorem run_fallBranch {e : Emulator} {pcStart : Int} (h : e.listing = fallListing pcStart) :
    e.run "b a" = .ok { e with cpu := e.cpu.put .pc pcStart } := by
  have hop : named? "B" = some .b := by decide
  refine Emulator.run_of_finishes read_fallBranch hop ?_
  have htarget : (fallListing pcStart).labelAddress? "a" = some pcStart := congrArg some (Int.add_zero pcStart)
  rw [h, Operation.run, finishes_lift_bind]
  exact ⟨pcStart, by simp only [targetOf, htarget], finishes_modify.2 rfl⟩

theorem not_branches_fall {line : Text} {i : Instruction} (hread : Instruction.read line 0 = .ok i)
    (h : i.mnemonic ∉ branchNames) : ¬Branches line := by
  rintro ⟨i', hread', hmem⟩
  obtain rfl := Except.ok.inj (hread.symm.trans hread')
  exact h hmem

theorem fall_loaded (pcStart pcEnd : Int) :
    let s := reached 0x100 Layout.standard [.load fallDevice (fallRequest pcStart pcEnd)]
    s.initialized = true ∧ s.request = some (fallRequest pcStart pcEnd) ∧
      s.machine = ⟨(Cpu.initial.reset 0x8000 pcStart 0x100 fallDevice.room).1, fallListing pcStart, 0x100⟩ ∧
      ∀ id, s.fields.text id = [] := by
  intro s
  obtain ⟨hok, hready, hrequest, hmachine⟩ :=
    (Session.create (Emulator.create 0x100) Layout.standard).load_of_program? (r := fallRequest pcStart pcEnd)
      (program?_fall pcStart) (show (0 : Int) ≤ 0x8000 by decide) (by decide) (by decide)
  refine ⟨hready, hrequest, hmachine, fun id => ?_⟩
  have hfields : s.fields = (Fields.ofCapacity _).clearAll.release := fields_load_of_ok hok
  rw [hfields, Fields.text, get_emptied (Fields.sound_ofCapacity _)]
  rfl

/-- The two lines before the branch. -/
theorem two_lines_run_in_order :
    let s := reached 0x100 Layout.standard [.load fallDevice (fallRequest 0x1000 0x1008)]
    s.step.result = .ok ⟨true, false, some 0x1000, some "mov x0, #7"⟩ ∧
      s.step.state.step.result = .ok ⟨true, true, some 0x1004, some "add x0, x0, #1"⟩ ∧
      (s.runs [.step, .step]).machine.cpu.get 0 = 8 ∧ s.runs [.step, .step, .step] = s.runs [.step, .step] := by
  intro s
  obtain ⟨hready, hrequest, hmachine, -⟩ := fall_loaded 0x1000 0x1008
  have hcode : s.machine.code = ["mov x0, #7".toList, "add x0, x0, #1".toList, "b a".toList] := by rw [hmachine]; rfl
  have hstart : s.machine.codeStart = 0x1000 := by rw [hmachine]; rfl
  have hpc : s.pc = 0x1000 := by
    rw [pc, hmachine]
    decide
  obtain ⟨e, hrun, hvalue⟩ :
      ∃ e, s.machine.runFrom s.pc ((s.machine.code.drop 0).take (2 - 0)) = .ok e ∧ e.cpu.get 0 = 8 := by
    rw [hcode]
    refine ⟨_, Emulator.runFrom_cons.2 ⟨_, run_fallMov _, Emulator.runFrom_cons.2 ⟨_, run_fallAdd _, rfl⟩⟩, ?_⟩
    rw [Cpu.get_setReg, if_pos rfl, Emulator.goTo, Cpu.get_put, if_neg (by decide), Cpu.get_setReg, if_pos rfl]
    decide
  have hplain : ∀ k line, 0 ≤ k → k < 2 → s.machine.code[k]? = some line → ¬Branches line := by
    intro k line _ hk hline
    rw [hcode] at hline
    obtain rfl | rfl : k = 0 ∨ k = 1 := by omega
    · obtain rfl := Option.some.inj hline
      exact not_branches_fall read_fallMov (by decide)
    · obtain rfl := Option.some.inj hline
      exact not_branches_fall read_fallAdd (by decide)
  obtain ⟨hsteps, hruns, hdone⟩ := straight_lines_run_in_order hready hrequest (i := 0) (j := 2)
    (by rw [hpc, hstart]; decide) (by rw [hstart]; decide) (by decide) (by rw [hcode]; decide)
    (by rw [hstart, hcode]; decide) (fun _ => by rw [hpc]; decide) hplain hrun
  have hfirst := hsteps 0 (by decide)
  have hsecond := hsteps 1 (by decide)
  rw [hstart, hcode] at hfirst hsecond
  have hrest : s.runs [.step, .step, .step] = (s.runs (List.replicate 2 .step)).runs (List.replicate 1 .step) := rfl
  refine ⟨hfirst, hsecond, ?_, ?_⟩
  · exact (congrArg (fun t : Session => t.machine.cpu.get 0) hruns).trans hvalue
  · rw [hrest, hruns, (hdone 1).1]
    exact hruns.symm

/-- The program at a negative address: the branch is entered by hand, and goes back to the first line. -/
def belowZero : List Command :=
  [.load fallDevice (fallRequest (-8) (-4))] ++ (typing .register ["32"] ++ typing .value ["0"] ++ [.press .enter]) ++ [.step]

/-- The branch leads to the first line at its negative address. -/
theorem belowZero_state :
    let s := reached 0x100 Layout.standard belowZero
    s.initialized = true ∧ s.request = some (fallRequest (-8) (-4)) ∧ s.machine.listing = fallListing (-8) ∧ s.pc = -8 := by
  intro s
  let loaded := reached 0x100 Layout.standard [.load fallDevice (fallRequest (-8) (-4))]
  obtain ⟨hready, hrequest, hmachine, hempty⟩ := fall_loaded (-8) (-4)
  obtain ⟨hsound, hroom⟩ := fields_reached 0x100 Layout.standard [.load fallDevice (fallRequest (-8) (-4))]
  have hcapacity : Layout.standard.inputCapacity = 20 := by decide
  have hentered := runs_entry hready hsound hempty (by decide : FieldId.register ≠ .value) ["32"] ["0"]
    (by rw [hroom, hcapacity]; decide) (by rw [hroom, hcapacity]; decide)
  have hnumber : Numeral.readDecimal "32" = .ok 32 := by decide
  have hvalue : Numeral.readWord "0" = .ok 0 := by decide
  obtain ⟨hzeroed, hresult⟩ := commitRegister_eq (e := loaded.machine) (r := .pc) hnumber (by decide) hvalue (by decide)
    (by decide)
  simp only [if_true, if_false, reduceCtorEq, List.flatten_singleton, commitMemory_nil, Outcome.ok] at hentered
  obtain ⟨fields, -, hentered⟩ := hentered _ _ hresult rfl
  rw [hzeroed, show loaded.machine = _ from hmachine] at hentered
  generalize hm : (⟨_, _, _⟩ : Emulator) = m at hentered
  have hlisting : m.listing = fallListing (-8) := hm ▸ rfl
  have hzero : m.cpu.get .pc = 0 := by
    subst hm
    decide
  let entered : Session := { loaded with machine := m, fields := fields }
  have hcode : entered.machine.code = ["mov x0, #7".toList, "add x0, x0, #1".toList, "b a".toList] :=
    congrArg Listing.lines hlisting
  have hstart : entered.machine.codeStart = -8 := by
    change (m.listing.codeStart.getD 0) = _
    rw [hlisting]
    rfl
  have hat : entered.AtLine (fallRequest (-8) (-4)) "b a" := by
    refine Stands.atLine (i := 2) ⟨hready, hrequest, ?_, ?_⟩ (by rw [hcode]; rfl) ?_
    · rw [hstart]
      exact hzero
    · rw [hstart, hcode]
      decide
    · exact hzero.trans_ne (by decide)
  have hstate := (step_executed hat (run_fallBranch (e := entered.advanced) hlisting)).1
  have hs : s = entered.withMachine { entered.advanced with cpu := entered.advanced.cpu.put .pc (-8) } := by
    rw [← hstate]
    change reached _ _ _ = _
    rw [belowZero, reached, runs_append, runs_append]
    exact congrArg (fun t : Session => t.step.state) hentered
  rw [hs]
  exact ⟨hready, hrequest, hlisting, (entered.advanced.cpu.get_put .pc .pc _).trans (if_pos rfl)⟩

/-- The step over the first line does not report the end, as the program counter is brought into the range of words
behind the line and the end address is not. -/
theorem negative_end_is_missed :
    let s := reached 0x100 Layout.standard belowZero
    s.initialized = true ∧ s.request = some (fallRequest (-8) (-4)) ∧
      s.pc = s.machine.codeStart + (0 : Nat) * instructionSize ∧
      (fallRequest (-8) (-4)).pcEnd = s.machine.codeStart + (1 : Nat) * instructionSize ∧ 1 ≤ s.machine.code.length ∧
      s.machine.codeStart + s.machine.code.length * instructionSize < Word.limit ∧
      (∀ k line, 0 ≤ k → k < 1 → s.machine.code[k]? = some line → ¬Branches line) ∧
      (∃ e, s.machine.runFrom s.pc ((s.machine.code.drop 0).take (1 - 0)) = .ok e) ∧
      s.step.result = .ok ⟨true, false, some (-8), some "mov x0, #7"⟩ ∧ s.step.state.pc = 0xfffffffffffffffc := by
  intro s
  obtain ⟨hready, hrequest, hlisting, hpc⟩ := belowZero_state
  have hcode : s.machine.code = ["mov x0, #7".toList, "add x0, x0, #1".toList, "b a".toList] :=
    congrArg Listing.lines hlisting
  have hstart : s.machine.codeStart = -8 := by
    change (s.machine.listing.codeStart.getD 0) = _
    rw [hlisting]
    rfl
  have hstands : s.Stands (fallRequest (-8) (-4)) 0 := by
    refine ⟨hready, hrequest, ?_, ?_⟩
    · rw [hpc, hstart]
      decide
    · rw [hstart, hcode]
      decide
  have hat : s.AtLine (fallRequest (-8) (-4)) "mov x0, #7" :=
    hstands.atLine (by rw [hcode]; rfl) (by rw [hpc]; decide)
  obtain ⟨hstate, hresult⟩ := step_executed hat (run_fallMov _)
  have hbehind : (s.advanced.cpu.setReg 0 7).get .pc = 0xfffffffffffffffc := by
    rw [Cpu.get_setReg, if_neg (by decide), advanced, Cpu.get_put, if_pos rfl, hpc]
    decide
  refine ⟨hready, hrequest, hstands.pc, ?_, ?_, hstands.limit, ?_, ?_, ?_, ?_⟩
  · rw [hstart]
    decide
  · rw [hcode]
    decide
  · intro k line _ hk hline
    obtain rfl : k = 0 := by omega
    rw [hcode] at hline
    obtain rfl := Option.some.inj hline
    exact not_branches_fall read_fallMov (by decide)
  · rw [hcode]
    exact ⟨_, Emulator.runFrom_cons.2 ⟨_, run_fallMov _, rfl⟩⟩
  · rw [hresult, hpc]
    dsimp only
    rw [hbehind]
    rfl
  · rw [hstate]
    exact hbehind

end Stepper
