import Stepper.Proofs.Machine.Program
import Stepper.Proofs.Session.Command

/-! The load of a session. A load and a reset set the machine up anew, if the program can be read, and whether the session is
ready then tells how it went. -/

namespace Stepper.Session

/-- The load that a command asks for. -/
def loading? (s : Session) : Command → Option (Device × LoadRequest)
  | .load d r => some (d, r)
  | .reset d => s.request.map fun r => (d, r)
  | _ => none

variable {s : Session} {c : Command} {d : Device} {r : LoadRequest}

/-- A command that asks for a load leaves the machine that the load leaves, and is ready if the load goes well. Only
then the request is the one that was loaded. -/
theorem after_of_loading (h : s.loading? c = some (d, r)) :
    (s.after c).machine = (s.machine.load d r.path r.pcStart r.spStart).state ∧
      ((s.machine.load d r.path r.pcStart r.spStart).result = .ok () →
        (s.after c).initialized = true ∧ (s.after c).request = some r) ∧
      ∀ cause, (s.machine.load d r.path r.pcStart r.spStart).result = .error cause →
        (s.after c).initialized = false ∧ (s.after c).request = s.request := by
  cases c with
  | load d' r' =>
    obtain ⟨rfl, rfl⟩ := Prod.mk.inj (Option.some.inj h)
    rw [after]
    unfold load start
    cases hload : (s.machine.load d' r'.path r'.pcStart r'.spStart).result with
    | error cause => simp [hload, Outcome.error, Except.toOption]
    | ok _ => simp [hload, Outcome.ok, clearFields, Except.toOption]
  | reset d' =>
    obtain ⟨r', hr, heq⟩ := Option.map_eq_some_iff.1 h
    obtain ⟨rfl, rfl⟩ := Prod.mk.inj heq
    rw [after]
    unfold reset start
    cases hload : (s.machine.load d' r'.path r'.pcStart r'.spStart).result with
    | error cause => simp [hload, hr, Outcome.error, Except.toOption]
    | ok _ => simp [hload, hr, Outcome.ok, Except.toOption]
  | step => simp [loading?] at h
  | activate target => simp [loading?] at h
  | releaseFocus => simp [loading?] at h
  | typeText t => simp [loading?] at h
  | press key => simp [loading?] at h
  | commit => simp [loading?] at h

/-- Where memory has room for the stack, a load of a program goes well. -/
theorem load_of_program? (s : Session) {l : Asm.Listing} (h : Emulator.program? d r.path r.pcStart = some l)
    (hsp : 0 ≤ r.spStart) (hsize : 0 ≤ s.machine.stackSize) (hroom : Cpu.Fits d.room s.machine.stackSize) :
    (s.load d r).result = .ok () ∧ (s.after (.load d r)).initialized = true ∧ (s.after (.load d r)).request = some r ∧
      (s.after (.load d r)).machine = { s.machine with
        listing := l, cpu := (s.machine.cpu.reset r.spStart r.pcStart s.machine.stackSize d.room).1 } := by
  obtain ⟨hstate, hresult⟩ := s.machine.load_of_program? r.spStart h
  rw [Emulator.reset_ok hsp hsize hroom] at hresult
  obtain ⟨hmachine, hok, -⟩ := after_of_loading (s := s) (c := .load d r) rfl
  refine ⟨?_, (hok hresult).1, (hok hresult).2, hmachine.trans hstate⟩
  simp [load, start, hresult, Except.mapError, Outcome.ok]

theorem reached_load (stackSize : Int) (layout : Layout) (d : Device) (r : LoadRequest) :
    reached stackSize layout [.load d r] = (create (Emulator.create stackSize) layout).after (.load d r) := rfl

end Stepper.Session
