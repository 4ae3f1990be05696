import Stepper.Proofs.Machine.Labels
import Stepper.Proofs.Session.Lifetime

/-! The first state of a program. Registers hold words, so the stack pointer and the program counter start wrapped, while
the top of the stack and the address of the code are what was asked for. They agree below the limit of words, and only
there. -/

namespace Stepper

open Asm Operation

namespace Word

theorem wrap_le_self {v : Int} (h : 0 ≤ v) : wrap v ≤ v := by
  unfold wrap limit
  omega

theorem wrap_eq_self_iff {v : Int} (h : 0 ≤ v) : wrap v = v ↔ v < limit :=
  ⟨fun heq => heq ▸ wrap_lt v, wrap_of_range h⟩

end Word

namespace Cpu

theorem get_reset (c : Cpu) (spStart pcStart stackSize : Int) (room : Nat) (r : Reg) :
    (c.reset spStart pcStart stackSize room).1.get r = (c.restart spStart pcStart stackSize).get r := by
  unfold reset
  dsimp only
  rw [size_restart]
  cases stackBytes room (spStart - max 0 (spStart - stackSize)) <;> rfl

theorem get_pc_restart (c : Cpu) (spStart pcStart stackSize : Int) :
    (c.restart spStart pcStart stackSize).get .pc = Word.wrap pcStart := by
  rw [restart, get_put, if_pos rfl]

section

variable {c : Cpu} (hbottom : 0 ≤ c.stackBottom) (hword : Word.bytes ≤ c.stackTop - c.stackBottom)

include hbottom hword

/-- A wrapped stack pointer leads to a word of the stack if the top is less than a word beyond the limit. -/
theorem inStack_below_top_iff (hindex : c.stackTop - c.stackBottom < indexLimit) :
    c.inStack (Word.wrap (Word.wrap c.stackTop - Word.bytes)) Word.bytes = true ↔
      c.stackTop < Word.limit + Word.bytes := by
  rw [inStack_iff]
  unfold Word.wrap Word.limit
  unfold Word.bytes at *
  unfold indexLimit at hindex
  omega

/-- Then it is the last one. -/
theorem write_below_top (hc : c.Filled) (hlimit : c.stackTop < Word.limit + Word.bytes) (v : Int) :
    c.write (Word.wrap (Word.wrap c.stackTop - Word.bytes)) v Word.bytes =
      { c with stack := c.stack.take (c.stack.length - Word.bytes) ++ bytesOfValue Word.bytes v } := by
  -- a pointer that was wrapped to less than a word goes below zero and wraps back
  have haddress : Word.wrap (Word.wrap c.stackTop - Word.bytes) = c.stackTop - Word.bytes := by
    unfold Word.wrap Word.limit
    unfold Word.limit at hlimit
    unfold Word.bytes at *
    omega
  have hoffset : (c.stackTop - Word.bytes - c.stackBottom).toNat = c.stack.length - Word.bytes := by
    unfold Filled at hc
    omega
  have hbehind : c.stack.length ≤ c.stack.length - Word.bytes + Word.bytes := by omega
  rw [write, haddress, hoffset, writeBytes, length_bytesOfValue, List.drop_of_length_le hbehind, List.append_nil]

end

end Cpu

namespace Emulator

/-- A store of the first register to the word below the stack pointer. -/
def storeBelow : Text := "str x0, [sp, #-8]"

theorem read_storeBelow : Instruction.read storeBelow 0 =
    .ok ⟨storeBelow, "STR", [⟨.reg 0, "x0"⟩, ⟨.mem .sp (-8), "[sp, #-8]"⟩]⟩ := by
  have hfree : stripComment storeBelow = storeBelow := stripComment_of_commentFree (by unfold CommentFree; decide)
  rw [Instruction.read, hfree]
  rfl

theorem run_storeBelow (e : Emulator) :
    let address := Word.wrap (e.cpu.get .sp - Word.bytes)
    e.run storeBelow =
      if e.cpu.inStack address Word.bytes then .ok { e with cpu := e.cpu.write address (e.cpu.get 0) Word.bytes }
      else .error (.failed ⟨.outsideStack address e.cpu.stackBottom e.cpu.stackTop, storeBelow⟩) := by
  intro address
  have hop : named? "STR" = some .str := by decide
  have haddress : Word.wrap (e.cpu.get .sp + -8) = address := rfl
  rw [run, performLine, read_storeBelow]
  simp only [perform, hop, perform_eq, Operation.run, outcome_bind, outcome_get, outcome_lift, outcome_modify, addressOf,
    valueOf, haddress]
  cases e.cpu.inStack address Word.bytes with
  | false => rfl
  | true => rfl

end Emulator

namespace Session

/-- A session that a plain source was just loaded into, with its first line. -/
structure Entered (s : Session) (r : LoadRequest) (line : Text) : Prop where
  ready : s.initialized = true
  request : s.request = some r
  codeStart : s.machine.codeStart = r.pcStart
  first : s.machine.code[0]? = some line
  pc : s.pc = Word.wrap r.pcStart
  sp : s.machine.cpu.get .sp = Word.wrap r.spStart
  since : s.machine.cpu.Since r.spStart s.machine.stackSize
  indexed : s.machine.cpu.stackTop - s.machine.cpu.stackBottom < indexLimit

/-- A step runs the line of a number. -/
def Fetches (s : Session) (i : Nat) : Prop :=
  ∃ line, s.machine.code[i]? = some line ∧ s.step.log = [⟨.info, Numeral.shown s.pc ++ " " ++ line⟩] ∧
    s.step.state = s.withMachine (s.advanced.performLine line).1

variable {s : Session} {d : Device} {r : LoadRequest} {source line : Text}

theorem entered_of_load (hread : Emulator.readText d r.path = .ok source) (hplain : isAddressListing source = false)
    (hsome : (Source.read source).instructions ≠ []) (hpc : 0 ≤ r.pcStart) (h : (s.load d r).result = .ok ()) :
    ∃ line, (s.after (.load d r)).Entered r line := by
  obtain ⟨base, hbase⟩ := Int.eq_ofNat_of_zero_le hpc
  have hlist : (Emulator.listingOf r.path source base).2 = .ok (preparedListing source base) :=
    Emulator.listingOf_plain hplain
  have hprogram := Emulator.program?_of_listing hread hlist
  have hne : preparedLines source base ≠ [] := by simpa [preparedLines] using hsome
  obtain ⟨line, rest, hline⟩ := List.exists_cons_of_ne_nil hne
  obtain ⟨hload, hresult⟩ := starts_iff.1 (.load h)
  obtain ⟨hmachine, hok, -⟩ := after_of_loading hload
  obtain ⟨hready, hrequest⟩ := hok hresult
  have hlisting := s.machine.listing_of_load_plain base hplain r.spStart hread
  rw [← hbase] at hprogram hlisting
  have hcleared := Emulator.cleared_of_load hprogram hresult
  have hsince := Cpu.since_reset hcleared
  have hcpu := (s.machine.load_of_program? r.spStart hprogram).1
  refine ⟨line, {
    ready := hready, request := hrequest, codeStart := ?_, first := ?_, pc := ?_, sp := ?_, since := ?_, indexed := ?_ }⟩
  · rw [hmachine, Emulator.codeStart, hlisting]
    rfl
  · rw [hmachine, Emulator.code, hlisting, hline]
    rfl
  · rw [pc, hmachine, hcpu, Cpu.get_reset, Cpu.get_pc_restart]
  · rw [hmachine, hcpu, Cpu.get_reset, Cpu.get_restart _ _ _ _ (by decide), Cpu.startValue, if_pos rfl]
  · rw [hmachine, hcpu]
    exact hsince
  · rw [hmachine, hcpu, hsince.top, hsince.bottom]
    obtain ⟨n, hbytes⟩ := Cpu.exists_stackBytes hcleared
    exact (Cpu.stackBytes_eq_ok hbytes).2.2

namespace Entered

theorem pc_eq_codeStart_iff (h : s.Entered r line) (hpc : 0 ≤ r.pcStart) :
    s.pc = s.machine.codeStart ↔ r.pcStart < Word.limit := by
  rw [h.pc, h.codeStart, Word.wrap_eq_self_iff hpc]

theorem outside_iff (h : s.Entered r line) (hpc : 0 ≤ r.pcStart) : s.Outside ↔ ¬ r.pcStart < Word.limit := by
  have hlength : 0 < s.machine.code.length := (List.getElem?_eq_some_iff.1 h.first).1
  rw [← h.pc_eq_codeStart_iff hpc, Outside]
  constructor
  · intro hout hstart
    rw [index, hstart, Int.sub_self, Int.zero_ediv] at hout
    omega
  · intro hne
    have hle : s.pc ≤ s.machine.codeStart := by
      rw [h.pc, h.codeStart]
      exact Word.wrap_le_self hpc
    omega

theorem index_eq_zero_iff (h : s.Entered r line) (hpc : 0 ≤ r.pcStart) :
    s.currentIndex = some 0 ↔ r.pcStart < Word.limit := by
  rw [currentIndex, if_pos h.ready, Option.some_inj]
  constructor
  · intro hindex
    by_contra hbeyond
    have hlength : 0 < s.machine.code.length := (List.getElem?_eq_some_iff.1 h.first).1
    have hout := (h.outside_iff hpc).2 hbeyond
    rw [Outside, index, hindex] at hout
    have hnonneg : 0 ≤ s.pc - s.machine.codeStart := (Int.ediv_nonneg_iff_of_pos (by decide)).1 (Int.le_of_eq hindex.symm)
    omega
  · intro hin
    rw [(h.pc_eq_codeStart_iff hpc).2 hin, Int.sub_self, Int.zero_ediv]

theorem fetches_first_iff (h : s.Entered r line) (hpc : 0 ≤ r.pcStart) (hend : r.pcEnd ≠ r.pcStart) :
    s.Fetches 0 ↔ r.pcStart < Word.limit := by
  constructor
  · rintro ⟨_, -, hlog, -⟩
    by_contra hbeyond
    -- the wrapped program counter is before the code, where it may still be the end
    have hnone : s.step.log = [] := by
      by_cases hhalted : s.pc = r.pcEnd
      · rw [step_halted h.ready h.request hhalted]
        rfl
      · rw [step_outside h.ready h.request hhalted ((h.outside_iff hpc).2 hbeyond)]
        rfl
    simp [hnone] at hlog
  · intro hin
    have hstart := (h.pc_eq_codeStart_iff hpc).2 hin
    have hindex : s.index = 0 := by rw [index, hstart, Int.sub_self, Int.zero_ediv]
    have hat : s.AtLine r line :=
      ⟨h.ready, h.request, by rw [hstart, h.codeStart]; exact hend.symm, fun hout => (h.outside_iff hpc).1 hout hin,
        by rw [hindex]; exact h.first⟩
    refine ⟨line, h.first, ?_⟩
    rw [step_line hat]
    rcases s.advanced.performLine line with ⟨e, cause | _⟩
    · exact ⟨rfl, rfl⟩
    · exact ⟨rfl, rfl⟩

theorem sp_eq_stackTop_iff (h : s.Entered r line) (hsp : 0 ≤ r.spStart) :
    s.machine.cpu.get .sp = s.machine.cpu.stackTop ↔ r.spStart < Word.limit := by
  rw [h.sp, h.since.top, Word.wrap_eq_self_iff hsp]

/-- The word below the stack pointer is the last one of the stack, as long as it is found. -/
theorem run_storeBelow (h : s.Entered r line)
    (hword : Word.bytes ≤ s.machine.cpu.stackTop - s.machine.cpu.stackBottom) {registers : Vector Int registerCount}
    (hkept : registers[Reg.sp] = s.machine.cpu.get .sp) :
    let c := s.machine.cpu
    let e : Emulator := { s.machine with cpu := { c with registers := registers } }
    let stored := c.stack.take (c.stack.length - Word.bytes) ++ bytesOfValue Word.bytes registers[(0 : Reg)]
    e.run Emulator.storeBelow =
      if r.spStart < Word.limit + Word.bytes then .ok { e with cpu := { e.cpu with stack := stored } }
      else .error (.failed ⟨.outsideStack (Word.wrap (c.get .sp - Word.bytes)) c.stackBottom c.stackTop,
        Emulator.storeBelow⟩) := by
  intro c e stored
  have htop : c.stackTop = r.spStart := h.since.top
  have hbottom : 0 ≤ c.stackBottom := h.since.bottom ▸ Int.le_max_left 0 _
  have hpointer : e.cpu.get .sp = Word.wrap c.stackTop := by
    rw [htop, ← h.sp]
    exact hkept
  have hinside := Cpu.inStack_below_top_iff (c := e.cpu) hbottom hword h.indexed
  rw [Emulator.run_storeBelow, hpointer]
  by_cases hlimit : c.stackTop < Word.limit + Word.bytes
  · have hwrite := Cpu.write_below_top (c := e.cpu) hbottom hword h.since.filled hlimit (e.cpu.get 0)
    rw [if_pos (hinside.2 hlimit), if_pos (htop ▸ hlimit), hwrite]
    rfl
  · rw [if_neg (mt hinside.1 hlimit), if_neg (htop ▸ hlimit), h.sp, ← htop]

end Entered

end Session

open Session

/-- A plain source with an instruction starts where it should if and only if the addresses that it is loaded for are
words. The stack pointer is then the top of the stack; the program counter is the address of the code, the first line is
the current one, and a step runs it unless it is the end. For a stack of a word or more, a store below the stack pointer
writes the last word of the stack, whatever the other registers hold, if the stack starts less than a word beyond the
limit, and it is refused otherwise. -/
theorem start_agrees_below_limit {s : Session} {d : Device} {r : LoadRequest} {source : Text}
    (hread : Emulator.readText d r.path = .ok source) (hplain : isAddressListing source = false)
    (hsome : (Source.read source).instructions ≠ []) (hpc : 0 ≤ r.pcStart) (hsp : 0 ≤ r.spStart)
    (h : (s.load d r).result = .ok ()) :
    let s' := s.after (.load d r)
    let c := s'.machine.cpu
    (c.get .sp = c.stackTop ↔ r.spStart < Word.limit) ∧
    (s'.pc = s'.machine.codeStart ↔ r.pcStart < Word.limit) ∧
    (s'.currentIndex = some 0 ↔ r.pcStart < Word.limit) ∧
    (r.pcEnd ≠ r.pcStart → (s'.Fetches 0 ↔ r.pcStart < Word.limit)) ∧
    (Word.bytes ≤ c.stackTop - c.stackBottom →
      ∀ registers : Vector Int registerCount, registers[Reg.sp] = c.get .sp →
        let e : Emulator := { s'.machine with cpu := { c with registers := registers } }
        let stored := c.stack.take (c.stack.length - Word.bytes) ++ bytesOfValue Word.bytes registers[(0 : Reg)]
        e.run Emulator.storeBelow =
          if r.spStart < Word.limit + Word.bytes then .ok { e with cpu := { e.cpu with stack := stored } }
          else .error (.failed ⟨.outsideStack (Word.wrap (c.get .sp - Word.bytes)) c.stackBottom c.stackTop,
            Emulator.storeBelow⟩)) := by
  obtain ⟨line, hentered⟩ := entered_of_load hread hplain hsome hpc h
  exact ⟨hentered.sp_eq_stackTop_iff hsp, hentered.pc_eq_codeStart_iff hpc, hentered.index_eq_zero_iff hpc,
    hentered.fetches_first_iff hpc, fun hword _ hkept => hentered.run_storeBelow hword hkept⟩

/-- Addresses beyond the limit, for the code and for the stack. -/
def beyondRequest : LoadRequest := ⟨"twice.s", 0x10000000000000000, 0x5000, 0x10000000000000010⟩

theorem beyond_limit_starts_apart :
    let s := Session.create (Emulator.create 0x100) Layout.standard
    let s' := s.after (.load twiceDevice beyondRequest)
    Emulator.readText twiceDevice "twice.s" = .ok twiceSource ∧ isAddressListing twiceSource = false ∧
      (Source.read twiceSource).instructions ≠ [] ∧ 0 ≤ beyondRequest.pcStart ∧ 0 ≤ beyondRequest.spStart ∧
      (s.load twiceDevice beyondRequest).result = .ok () ∧ s'.machine.cpu.get .sp ≠ s'.machine.cpu.stackTop ∧
      s'.pc ≠ s'.machine.codeStart ∧ s'.currentIndex ≠ some 0 ∧ ¬ s'.Fetches 0 ∧
      ∃ cause, s'.machine.run Emulator.storeBelow = .error cause := by
  intro s s'
  have hread : Emulator.readText twiceDevice "twice.s" = .ok twiceSource :=
    Emulator.readText_of_encoded (by decide) (by decide) (by decide)
  have hsome : (Source.read twiceSource).instructions ≠ [] := by
    rw [Source.read, cleanLines_twiceSource]
    decide
  have hpc : 0 ≤ beyondRequest.pcStart := by decide
  have hsp : 0 ≤ beyondRequest.spStart := by decide
  have hlist : (Emulator.listingOf "twice.s" twiceSource ((0x10000000000000000 : Nat) : Int)).2 = _ :=
    Emulator.listingOf_plain plain_twiceSource
  have hprogram := Emulator.program?_of_listing hread hlist
  obtain ⟨h, -, -, hmachine⟩ := s.load_of_program? (r := beyondRequest) hprogram hsp (by decide) (by decide)
  obtain ⟨hpointer, hcounter, hindex, hfetch, hstore⟩ := start_agrees_below_limit hread plain_twiceSource hsome hpc hsp h
  have hbeyond : ¬ beyondRequest.pcStart < Word.limit := by decide
  refine ⟨hread, plain_twiceSource, hsome, hpc, hsp, h, mt hpointer.1 (by decide), mt hcounter.1 hbeyond,
    mt hindex.1 hbeyond, mt (hfetch (by decide)).1 hbeyond, ?_⟩
  have hword : Word.bytes ≤ s'.machine.cpu.stackTop - s'.machine.cpu.stackBottom := by
    rw [hmachine]
    decide
  exact ⟨_, (hstore hword s'.machine.cpu.registers rfl).trans (if_neg (by decide))⟩

end Stepper
