import Mathlib.Tactic.Basic
import Stepper.Proofs.Machine.Execution
import Stepper.Proofs.Machine.Range
import Stepper.Proofs.Numeral.Limit
import Stepper.Proofs.Session.Loading

/-! What a step does. It runs at most one line; where it is refused, the machine is the one from before with the
program counter behind the line, and nothing else has changed. Two kinds of step are not foreseen, and both have to
do with numbers of too many digits. -/

namespace Stepper

open Asm Numeral Operation Text

namespace Session

/-- The number of the line at the program counter, which need not exist. -/
def index (s : Session) : Int :=
  (s.pc - s.machine.codeStart) / instructionSize

/-- The program counter is before the code or behind it. -/
def Outside (s : Session) : Prop :=
  s.pc < s.machine.codeStart ∨ (s.machine.code.length : Int) ≤ s.index

/-- A step has this line to run. -/
structure AtLine (s : Session) (r : LoadRequest) (line : Text) : Prop where
  ready : s.initialized = true
  request : s.request = some r
  running : s.pc ≠ r.pcEnd
  inside : ¬ s.Outside
  line : s.machine.code[s.index.toNat]? = some line

/-- The machine that a line runs on: the program counter is already behind the line. -/
def advanced (s : Session) : Emulator :=
  { s.machine with cpu := s.machine.cpu.put .pc (Word.wrap (s.pc + instructionSize)) }

/-- What the registers of that machine hold, and that all else is as it was. -/
theorem get_advanced (s : Session) (r : Reg) :
    s.advanced.cpu.get r = if .pc = r then (s.pc + instructionSize) % Word.limit else s.machine.cpu.get r := by
  rw [advanced, Cpu.get_put]
  rfl

theorem advanced_eq (s : Session) :
    s.advanced = { s.machine with cpu := { s.machine.cpu with registers := s.advanced.cpu.registers } } := rfl

theorem step_idle {s : Session} (h : s.initialized = false) : s.step = .ok s [] ⟨false, false, none, none⟩ := by
  simp [step, h]

theorem step_halted {s : Session} {r : LoadRequest} (hready : s.initialized = true) (hr : s.request = some r)
    (hend : s.pc = r.pcEnd) : s.step = .ok s [] ⟨false, true, some s.pc, none⟩ := by
  simp [step, hready, hr, hend]

theorem step_outside {s : Session} {r : LoadRequest} (hready : s.initialized = true) (hr : s.request = some r)
    (hrun : s.pc ≠ r.pcEnd) (hout : s.Outside) :
    s.step = .error s [] (.outside s.pc s.index s.machine.code.length) := by
  have hnone : (if s.pc - s.machine.codeStart < 0 then none else s.machine.code[s.index.toNat]?) = none := by
    split
    · rfl
    · next hoffset =>
      rcases hout with hbefore | hbehind
      · omega
      · exact List.getElem?_eq_none (by omega)
  unfold index at hnone
  simp only [step, hready, hr, if_neg hrun, hnone]
  rfl

/-- A program counter that is not outside is at a line. -/
theorem line_of_inside {s : Session} (h : ¬ s.Outside) : ∃ line, s.machine.code[s.index.toNat]? = some line := by
  unfold Outside at h
  have hstart : 0 ≤ s.index := Int.ediv_nonneg (by omega) (by decide)
  exact ⟨_, List.getElem?_eq_getElem (by omega)⟩

theorem step_line {s : Session} {r : LoadRequest} {line : Text} (h : s.AtLine r line) :
    s.step =
      match s.advanced.performLine line with
      | (e, .error cause) => .error (s.withMachine e) [⟨.info, Numeral.shown s.pc ++ " " ++ line⟩] (.run cause)
      | (e, .ok ()) =>
        .ok (s.withMachine e) [⟨.info, Numeral.shown s.pc ++ " " ++ line⟩]
          ⟨true, (s.withMachine e).isHalted, some s.pc, some line⟩ := by
  have hsome : (if s.pc - s.machine.codeStart < 0 then none else s.machine.code[s.index.toNat]?) = some line := by
    have hinside := h.inside
    unfold Outside at hinside
    rw [if_neg (by omega), h.line]
  unfold index at hsome
  simp only [step, h.ready, h.request, if_neg h.running, hsome, advanced]
  generalize Emulator.performLine _ line = ran
  rcases ran with ⟨e, cause | _⟩
  · rfl
  · rfl

/-- A line that is refused has only moved the program counter. -/
theorem step_failed {s : Session} {r : LoadRequest} {line : Text} {cause : RunError} (h : s.AtLine r line)
    (hfail : s.advanced.run line = .error cause) :
    s.step.state = s.withMachine s.advanced ∧ s.step.result = .error (.run cause) := by
  rw [step_line h]
  unfold Emulator.run at hfail
  rcases hends : s.advanced.performLine line with ⟨e, other | _⟩
  · rw [hends] at hfail
    obtain rfl : other = cause := by simpa using hfail
    obtain rfl := Emulator.performLine_error hends
    exact ⟨rfl, rfl⟩
  · simp [hends] at hfail

theorem step_executed {s : Session} {r : LoadRequest} {line : Text} {e : Emulator} (h : s.AtLine r line)
    (hrun : s.advanced.run line = .ok e) :
    s.step.state = s.withMachine e ∧
      s.step.result = .ok ⟨true, e.cpu.get .pc == r.pcEnd, some s.pc, some line⟩ := by
  have hhalted : (s.withMachine e).isHalted = (e.cpu.get .pc == r.pcEnd) := by
    simp [isHalted, withMachine, h.request, h.ready, pc]
  rw [step_line h, Emulator.run_eq_ok_iff.1 hrun, ← hhalted]
  exact ⟨rfl, rfl⟩

/-- The kinds of step. In the last two a number has too many digits: the index of a line that does not exist, or an
integer on the line that is to be run. -/
inductive StepKind where
  | idle
  | halted
  | outside
  | executed
  | failed
  | uncounted
  | unread

/-- When a step is of a kind, what it answers then, and which session it leaves. -/
inductive StepsAs (s : Session) : StepKind → Prop
  | idle (ready : s.initialized = false) (state : s.step.state = s)
    (result : s.step.result = .ok ⟨false, false, none, none⟩) : StepsAs s .idle
  | halted {r : LoadRequest} (ready : s.initialized = true) (request : s.request = some r) (atEnd : s.pc = r.pcEnd)
    (state : s.step.state = s) (result : s.step.result = .ok ⟨false, true, some s.pc, none⟩)
    (stays : ∀ n, s.runs (List.replicate n .step) = s) : StepsAs s .halted
  | outside {r : LoadRequest} (ready : s.initialized = true) (request : s.request = some r) (running : s.pc ≠ r.pcEnd)
    (beyond : s.Outside) (index : Writable s.index) (state : s.step.state = s)
    (result : s.step.result = .error (.outsideListing s.pc s.index s.machine.code.length)) : StepsAs s .outside
  | executed {r : LoadRequest} {line : Text} {i : Instruction} {op : Operation} {c : Cpu} (at_line : s.AtLine r line)
    (read : Instruction.read line 0 = .ok i) (names : named? i.mnemonic = some op)
    (executes : op.execute s.advanced.cpu s.machine.listing i = .ok c)
    (state : s.step.state = s.withMachine { s.machine with cpu := c })
    (result : s.step.result = .ok ⟨true, c.get .pc == r.pcEnd, some s.pc, some line⟩) : StepsAs s .executed
  | failed {r : LoadRequest} {line : Text} {cause : RunError} (at_line : s.AtLine r line)
    (fails : s.advanced.run line = .error cause) (foreseen : ∀ fault, cause ≠ .fault fault)
    (state : s.step.state = s.withMachine s.advanced) (result : s.step.result = .error (.run cause)) : StepsAs s .failed
  | uncounted {r : LoadRequest} (ready : s.initialized = true) (request : s.request = some r) (running : s.pc ≠ r.pcEnd)
    (beyond : s.Outside) (index : ¬ Writable s.index) (state : s.step.state = s)
    (result : s.step.result = .error (.fault (.digits .writing))) : StepsAs s .uncounted
  | unread {r : LoadRequest} {line : Text} {cause : DigitError} (at_line : s.AtLine r line)
    (read : Instruction.read line 0 = .error (.digits cause)) (state : s.step.state = s.withMachine s.advanced)
    (result : s.step.result = .error (.run (.fault (.digits cause)))) : StepsAs s .unread

theorem runs_step_of_state {s : Session} (h : s.step.state = s) (n : Nat) : s.runs (List.replicate n .step) = s := by
  induction n with
  | zero => rfl
  | succ n ih =>
    calc s.runs (List.replicate (n + 1) .step)
      _ = s.step.state.runs (List.replicate n .step) := rfl
      _ = s := by rw [h, ih]

/-- A step that has a line to run executes it or fails, if it can read it. -/
theorem stepsAs_of_atLine {s : Session} {r : LoadRequest} {line : Text} (h : s.AtLine r line) :
    ∃ kind, s.StepsAs kind := by
  cases hrun : s.advanced.run line with
  | error cause =>
    obtain ⟨hstate, hresult⟩ := step_failed h hrun
    by_cases hfault : ∃ fault, cause = .fault fault
    · obtain ⟨fault, rfl⟩ := hfault
      obtain ⟨digits, hread, rfl⟩ := Emulator.unread_of_run hrun
      exact ⟨_, .unread h hread hstate hresult⟩
    · exact ⟨_, .failed h hrun (fun fault heq => hfault ⟨fault, heq⟩) hstate hresult⟩
  | ok e =>
    obtain ⟨hstate, hresult⟩ := step_executed h hrun
    obtain ⟨i, op, c, hread, hop, hends, rfl⟩ := Emulator.finishes_of_run hrun
    exact ⟨_, .executed h hread hop (execute_eq_ok_iff.2 hends) hstate hresult⟩

/-- A step where there is no line says so, if it can write down the index. -/
theorem stepsAs_of_outside {s : Session} {r : LoadRequest} (hready : s.initialized = true) (hr : s.request = some r)
    (hrun : s.pc ≠ r.pcEnd) (hout : s.Outside) : ∃ kind, s.StepsAs kind := by
  have hstep := step_outside hready hr hrun hout
  by_cases hw : Writable s.index
  · rw [StepError.outside, writeDecimal_of_writable hw] at hstep
    exact ⟨_, .outside hready hr hrun hout hw (by rw [hstep]; rfl) (by rw [hstep]; rfl)⟩
  · rw [StepError.outside, writeDecimal_of_not_writable hw] at hstep
    exact ⟨_, .uncounted hready hr hrun hout hw (by rw [hstep]; rfl) (by rw [hstep]; rfl)⟩

/-- Every step is of some kind, once a session with a program remembers its load. -/
theorem exists_stepsAs {s : Session} (h : s.initialized = true → s.request.isSome = true) : ∃ kind, s.StepsAs kind := by
  cases hready : s.initialized with
  | false => exact ⟨_, .idle hready (by rw [step_idle hready]; rfl) (by rw [step_idle hready]; rfl)⟩
  | true =>
    obtain ⟨r, hr⟩ := Option.isSome_iff_exists.1 (h hready)
    by_cases hend : s.pc = r.pcEnd
    · have hstate : s.step.state = s := by rw [step_halted hready hr hend]; rfl
      exact ⟨_, .halted hready hr hend hstate (by rw [step_halted hready hr hend]; rfl) (runs_step_of_state hstate)⟩
    · by_cases hout : s.Outside
      · exact stepsAs_of_outside hready hr hend hout
      · obtain ⟨line, hline⟩ := line_of_inside hout
        exact stepsAs_of_atLine ⟨hready, hr, hend, hout, hline⟩

/-- The kind of a step can be told from its answer. -/
def kindOfResult : Except StepError StepOutcome → StepKind
  | .error (.outsideListing _ _ _) => .outside
  | .error (.fault _) => .uncounted
  | .error (.run (.fault _)) => .unread
  | .error (.run _) => .failed
  | .ok answer => if answer.executed then .executed else if answer.halted then .halted else .idle

theorem StepsAs.kind_eq {s : Session} {kind : StepKind} (h : s.StepsAs kind) : kind = kindOfResult s.step.result := by
  cases h with
  | idle _ _ result => rw [result]; rfl
  | halted _ _ _ _ result => rw [result]; rfl
  | outside _ _ _ _ _ _ result => rw [result]; rfl
  | executed _ _ _ _ _ result => rw [result]; rfl
  | @failed _ _ cause _ _ foreseen _ result =>
    rw [result]
    cases cause with
    | refused => rfl
    | failed => rfl
    | fault fault => exact absurd rfl (foreseen fault)
  | uncounted _ _ _ _ _ _ result => rw [result]; rfl
  | unread _ _ _ result => rw [result]; rfl

/-- A step whose line does not run moves the program counter behind the line. No other register changes, and of the
machine nothing but its registers. -/
theorem StepsAs.only_advances {s : Session} {kind : StepKind} (h : s.StepsAs kind) (hkind : kind = .failed ∨ kind = .unread) :
    (∀ r, s.step.state.machine.cpu.get r =
      if .pc = r then (s.pc + instructionSize) % Word.limit else s.machine.cpu.get r) ∧
    s.step.state = s.withMachine { s.machine with
      cpu := { s.machine.cpu with registers := s.step.state.machine.cpu.registers } } := by
  have hstate : s.step.state = s.withMachine s.advanced := by
    cases h with
    | failed _ _ _ state => exact state
    | unread _ _ state => exact state
    | _ => simp at hkind
  refine ⟨fun r => ?_, ?_⟩
  · rw [hstate]
    exact s.get_advanced r
  · rw [hstate]
    exact congrArg s.withMachine s.advanced_eq

end Session

/-- In every session that is reached, a step is of exactly one kind, and it touches nothing but the machine. -/
theorem step_of_one_kind (stackSize : Int) (layout : Layout) (commands : List Command) :
    let s := Session.reached stackSize layout commands
    (∃! kind, s.StepsAs kind) ∧ s.step.state.fields = s.fields ∧ s.step.state.request = s.request ∧
      s.step.state.initialized = s.initialized ∧ s.step.state.layout = s.layout := by
  intro s
  obtain ⟨kind, hkind⟩ := Session.exists_stepsAs (Session.request_of_initialized stackSize layout commands)
  obtain ⟨e, hstate⟩ := s.step_state
  refine ⟨⟨kind, hkind, fun other hother => hother.kind_eq.trans hkind.kind_eq.symm⟩, ?_⟩
  rw [hstate]
  exact ⟨rfl, rfl, rfl, rfl⟩

/-- A listing whose only line is no instruction. -/
def nonsenseText : Text := "1000: 00000000   zzz\n"

def nonsenseListing : Listing := ⟨some 0x1000, ["zzz".toList], []⟩

def nonsenseDevice : Device where
  working := "/"
  scratch := []
  nodes := [(["nonsense.lst".toList], .file (Utf8.encode nonsenseText))]
  room := 0x10000
  depth := 100

def nonsenseRequest : LoadRequest := ⟨"nonsense.lst", 0x1000, 0x2000, 0x8000⟩

theorem listingOf_nonsense : (Emulator.listingOf "nonsense.lst" nonsenseText 0x1000).2 = .ok nonsenseListing := by
  decide +kernel

/-- The session has the listing and stands at its only line. -/
theorem atLine_nonsense :
    (Session.reached 0x100 Layout.standard [.load nonsenseDevice nonsenseRequest]).AtLine nonsenseRequest "zzz" ∧
      (Session.reached 0x100 Layout.standard [.load nonsenseDevice nonsenseRequest]).machine =
        ⟨(Cpu.initial.reset 0x8000 0x1000 0x100 0x10000).1, nonsenseListing, 0x100⟩ := by
  have hread : Emulator.readText nonsenseDevice "nonsense.lst" = .ok nonsenseText :=
    Emulator.readText_of_encoded (by decide) (by decide) (by decide)
  obtain ⟨-, hready, hrequest, hmachine⟩ := (Session.create (Emulator.create 0x100) Layout.standard).load_of_program?
    (r := nonsenseRequest) (Emulator.program?_of_listing hread listingOf_nonsense) (by decide) (by decide) (by decide)
  rw [Session.reached_load]
  refine ⟨⟨hready, hrequest, ?_, ?_, ?_⟩, hmachine⟩
  · rw [Session.pc, hmachine]
    decide
  · unfold Session.Outside Session.index Session.pc
    rw [hmachine]
    decide
  · unfold Session.index Session.pc
    rw [hmachine]
    rfl

/-- A step onto the line fails, and leaves the program counter behind it. -/
theorem nonsense_line_is_passed :
    let s := Session.reached 0x100 Layout.standard [.load nonsenseDevice nonsenseRequest]
    (∀ kind, s.StepsAs kind ↔ kind = .failed) ∧ s.step.state.machine.cpu.get .pc = 0x1004 ∧
      s.step.state.machine.cpu.get .sp = 0x8000 ∧ s.step.state.fields = s.fields := by
  intro s
  obtain ⟨hat, hmachine⟩ := atLine_nonsense
  have hfails : s.advanced.run "zzz" = .error (.failed ⟨.unknownInstruction "ZZZ", "zzz"⟩) := by
    have hread : Instruction.read "zzz" 0 = .ok ⟨"zzz", "ZZZ", []⟩ := by
      unfold Instruction.read
      rw [stripComment_of_commentFree (by unfold CommentFree; decide)]
      rfl
    simp only [Emulator.run, Emulator.performLine, hread]
    rfl
  obtain ⟨hstate, hresult⟩ := Session.step_failed hat hfails
  have hfailed : s.StepsAs .failed := .failed hat hfails (by simp) hstate hresult
  obtain ⟨⟨kind, hkind, hunique⟩, hfields, -⟩ := step_of_one_kind 0x100 Layout.standard [.load nonsenseDevice nonsenseRequest]
  obtain rfl : .failed = kind := hunique .failed hfailed
  obtain ⟨hget, -⟩ := hfailed.only_advances (.inl rfl)
  have hpc : s.pc = 0x1000 := by rw [Session.pc, hmachine]; decide
  have hsp : s.machine.cpu.get .sp = 0x8000 := by rw [hmachine]; decide
  refine ⟨fun other => ⟨hunique other, ?_⟩, ?_, ?_, hfields⟩
  · rintro rfl
    exact hfailed
  · rw [hget .pc, hpc]
    decide
  · rw [hget .sp, hsp]
    decide

end Stepper
