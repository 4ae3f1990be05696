import Stepper.Proofs.Session.Step
import Stepper.Proofs.Session.Words

/-! The program of a session. A command that asks for no load continues with the machine that is there, so a ready session
has the machine of its last load. -/

namespace Stepper

open Asm

namespace Session

variable {s : Session} {c : Command} {d : Device} {r : LoadRequest}

/-! ### Commands that ask for no load -/

/-- A session goes on with its program. -/
structure Continues (s s' : Session) : Prop where
  machine : s.machine.Continues s'.machine
  request : s'.request = s.request
  initialized : s'.initialized = s.initialized

theorem continues_of_machine {e : Emulator} (h : s.machine.Continues e) : s.Continues (s.withMachine e) :=
  ⟨h, rfl, rfl⟩

theorem continues_commitRegister (e : Emulator) (register value : Text) :
    e.Continues (commitRegister e register value).state := by
  rcases commitRegister_state e register value with hsame | ⟨r, v, -, hput⟩
  · rw [hsame]
    exact .refl e
  · rw [hput]
    exact e.continues_cpu (e.cpu.continues_put_markUsed r v)

theorem continues_commitMemory (e : Emulator) (memory value : Text) :
    e.Continues (commitMemory e memory value).state := by
  unfold commitMemory
  split
  · exact .refl e
  · split
    · exact .refl e
    · exact .refl e
    · next address v _ _ =>
      cases hindex : e.cpu.region.indexOf address with
      | error cause =>
        rw [StackRegion.writeWordAt_of_error hindex]
        exact .refl e
      | ok i =>
        rw [StackRegion.writeWordAt_of_ok hindex]
        exact e.continues_cpu
          (e.cpu.continues_of_stack (StackRegion.length_putWord _ (StackRegion.indexOf_eq_ok_iff.1 hindex).1))

theorem continues_commit (s : Session) : s.Continues s.commit.state := by
  refine ⟨?_, (s.commit_request).1, (s.commit_request).2⟩
  exact commit_machine (P := s.machine.Continues) (fun e _ _ he => he.trans (continues_commitRegister e _ _))
    (fun e _ _ he => he.trans (continues_commitMemory e _ _)) (.refl _)

theorem continues_step (hs : s.initialized = true → s.machine.cpu.Filled) : s.Continues s.step.state := by
  by_cases h : ∃ r line, s.AtLine r line
  · obtain ⟨r, line, h⟩ := h
    have hput := s.machine.cpu.continues_put_pc (Word.wrap (s.pc + instructionSize))
    have hadvanced : s.machine.Continues s.advanced := s.machine.continues_cpu hput
    have hline := Emulator.continues_performLine (e := s.advanced) (hput.filled (hs h.ready)) line
    have hstate : s.step.state = s.withMachine (s.advanced.performLine line).1 := by
      rw [step_line h]
      rcases s.advanced.performLine line with ⟨e, cause | _⟩
      · rfl
      · rfl
    rw [hstate]
    exact continues_of_machine (hadvanced.trans hline)
  · rw [step_elsewhere (by simpa using h)]
    exact ⟨.refl _, rfl, rfl⟩

theorem continues_of_not_loading (hs : s.initialized = true → s.machine.cpu.Filled) (h : s.loading? c = none) :
    s.Continues (s.after c) := by
  cases c with
  | load d r => simp [loading?] at h
  | reset d =>
    have hr : s.request = none := by simpa [loading?] using h
    have hstate : s.after (.reset d) = s := by simp [after, reset, hr, Outcome.ok]
    rw [hstate]
    exact ⟨.refl _, rfl, rfl⟩
  | step => exact continues_step hs
  | activate target => exact ⟨.refl _, rfl, rfl⟩
  | releaseFocus => exact ⟨.refl _, rfl, rfl⟩
  | typeText t => exact ⟨.refl _, rfl, rfl⟩
  | press key =>
    rcases s.press_state key with hs | hs | ⟨fields, hs⟩
    · rw [after, hs]
      exact ⟨.refl _, rfl, rfl⟩
    · rw [after, hs]
      exact s.continues_commit
    · rw [after, hs]
      exact ⟨.refl _, rfl, rfl⟩
  | commit => exact s.continues_commit

/-! ### Sound sessions -/

/-- A ready session has the machine of its request. -/
structure Sound (stackSize : Int) (s : Session) : Prop where
  size : s.machine.stackSize = stackSize
  since : s.initialized = true → ∃ r, s.request = some r ∧ s.machine.cpu.Since r.spStart stackSize

variable {stackSize : Int}

theorem Sound.filled (h : s.Sound stackSize) (hs : s.initialized = true) : s.machine.cpu.Filled := by
  obtain ⟨r, -, hsince⟩ := h.since hs
  exact hsince.filled

theorem Sound.after (h : s.Sound stackSize) (c : Command) : (s.after c).Sound stackSize := by
  cases hload : s.loading? c with
  | none =>
    have hc := continues_of_not_loading h.filled hload
    refine ⟨hc.machine.stackSize.trans h.size, fun hs => ?_⟩
    rw [hc.initialized] at hs
    obtain ⟨r, hr, hsince⟩ := h.since hs
    exact ⟨r, hc.request.trans hr, hsince.continues hc.machine.cpu⟩
  | some p =>
    obtain ⟨d, r⟩ := p
    obtain ⟨hmachine, hok, herror⟩ := after_of_loading hload
    cases hprogram : Emulator.program? d r.path r.pcStart with
    | none =>
      obtain ⟨hstate, cause, hresult⟩ := s.machine.load_of_none r.spStart hprogram
      refine ⟨by rw [hmachine, hstate, h.size], fun hs => ?_⟩
      simp [(herror cause hresult).1] at hs
    | some l =>
      obtain ⟨hstate, hresult⟩ := s.machine.load_of_program? r.spStart hprogram
      refine ⟨by rw [hmachine, hstate, h.size], fun hs => ?_⟩
      rw [hmachine, hstate]
      cases hreset : (s.machine.cpu.reset r.spStart r.pcStart s.machine.stackSize d.room).2 with
      | error cause =>
        rw [hreset] at hresult
        simp [(herror _ hresult).1] at hs
      | ok _ =>
        rw [hreset] at hresult
        exact ⟨r, (hok hresult).2, h.size ▸ Cpu.since_reset hreset⟩

theorem sound_reached (stackSize : Int) (layout : Layout) (commands : List Command) :
    (reached stackSize layout commands).Sound stackSize :=
  reached_induction (Q := fun _ => True) ⟨rfl, by simp [create]⟩ (fun _ c _ h => h.after c) fun _ _ => trivial

end Session

end Stepper
