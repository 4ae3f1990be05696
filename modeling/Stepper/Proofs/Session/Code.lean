import Stepper.Proofs.Asm.Final
import Stepper.Proofs.Session.Program

/-! The code of a session. Every line of it is a line of a listing that was read, from a file or from what a plain source was
prepared to, so it is final, and no step is refused because its line holds no instruction. -/

namespace Stepper

open Asm

namespace Emulator

/-- A line of a program was a line of a listing, whether the file was one or was prepared to be one. -/
theorem exists_read_of_program? {d : Device} {path : Text} {pcStart : Int} {l : Listing} (h : program? d path pcStart = some l)
    {line : Text} (hline : line ∈ l.lines) : ∃ text l', Listing.read text = .ok l' ∧ line ∈ l'.lines := by
  obtain ⟨text, -, h⟩ := Option.bind_eq_some_iff.1 h
  obtain ⟨l', hl, rfl⟩ := Option.map_eq_some_iff.1 h
  have hread : ∃ text', Listing.read text' = .ok l' := by
    unfold listingOf at hl
    split at hl
    · exact ⟨text, eq_ok_of_toOption hl⟩
    · exact ⟨prepare text pcStart, eq_ok_of_toOption hl⟩
  obtain ⟨text', hread⟩ := hread
  refine ⟨text', l', hread, ?_⟩
  unfold trimListing at hline
  split at hline
  · exact List.mem_of_mem_take hline
  · exact hline

/-- A line that holds an instruction is never refused for how it is written. -/
theorem run_ne_refused (e : Emulator) {line : Text} (h : ∀ cause, Instruction.read line 0 ≠ .error (.refused cause))
    (cause : ParseError) : e.run line ≠ .error (.refused cause) := by
  intro hrun
  have hline := runsLine e line
  unfold run at hrun
  rcases hends : e.performLine line with ⟨e', other | _⟩
  · rw [hends] at hrun hline
    obtain rfl := Except.error.inj hrun
    cases hline with
    | refused read => exact h cause read
  · simp [hends] at hrun

end Emulator

theorem Asm.Final.not_refused {line : Text} (h : Final line) (cause : ParseError) :
    Instruction.read line 0 ≠ .error (.refused cause) := by
  intro hread
  obtain ⟨w, r, -, hcases⟩ := h.read
  rcases hcases 0 with ⟨os, -, hok, -⟩ | ⟨digits, hdigits, -⟩
  · simp [hok] at hread
  · simp [hdigits] at hread

namespace Session

theorem final_after {s : Session} {stackSize : Int} (hs : s.Sound stackSize) (h : ∀ line ∈ s.machine.code, Final line)
    (c : Command) : ∀ line ∈ (s.after c).machine.code, Final line := by
  cases hload : s.loading? c with
  | none =>
    have hc := continues_of_not_loading hs.filled hload
    rw [Emulator.code, hc.machine.listing]
    exact h
  | some p =>
    obtain ⟨d, r⟩ := p
    obtain ⟨hmachine, -⟩ := after_of_loading hload
    rw [Emulator.code, hmachine]
    cases hprogram : Emulator.program? d r.path r.pcStart with
    | none =>
      rw [(s.machine.load_of_none r.spStart hprogram).1]
      exact h
    | some l =>
      rw [(s.machine.load_of_program? r.spStart hprogram).1]
      intro line hline
      obtain ⟨_, l', hread, hmem⟩ := Emulator.exists_read_of_program? hprogram hline
      exact Listing.final_of_read hread line hmem

theorem final_reached (stackSize : Int) (layout : Layout) (commands : List Command) :
    ∀ line ∈ (reached stackSize layout commands).machine.code, Final line := by
  have hkept : (reached stackSize layout commands).Sound stackSize ∧
      ∀ line ∈ (reached stackSize layout commands).machine.code, Final line := by
    refine reached_induction (P := fun s => s.Sound stackSize ∧ ∀ line ∈ s.machine.code, Final line) (Q := fun _ => True)
      ⟨sound_reached stackSize layout [], by simp [create, Emulator.create, Emulator.code, Listing.empty]⟩ ?_
      fun _ _ => trivial
    exact fun s c _ hs => ⟨hs.1.after c, final_after hs.1 hs.2 c⟩
  exact hkept.2

/-- A step on final lines may fail, but not for want of an instruction. -/
theorem step_ne_refused {s : Session} (hrequest : s.initialized = true → s.request.isSome = true)
    (h : ∀ line ∈ s.machine.code, Final line) (cause : ParseError) : s.step.result ≠ .error (.run (.refused cause)) := by
  intro hrefused
  obtain ⟨kind, hkind⟩ := exists_stepsAs hrequest
  cases hkind with
  | idle _ _ result => simp [result] at hrefused
  | halted _ _ _ _ result => simp [result] at hrefused
  | outside _ _ _ _ _ _ result => simp [result] at hrefused
  | executed _ _ _ _ _ result => simp [result] at hrefused
  | @failed _ line other at_line fails _ _ result =>
    rw [result] at hrefused
    obtain rfl : other = .refused cause := by simpa using hrefused
    exact s.advanced.run_ne_refused (h line (List.mem_of_getElem? at_line.line)).not_refused cause fails
  | uncounted _ _ _ _ _ _ result => simp [result] at hrefused
  | unread _ _ _ result => simp [result] at hrefused

end Session

open Session

/-- A second stripping takes nothing off any text. Every line of a listing that is read is final, and so is every line of the
code in a session that is reached; so no step there is refused because its line holds no instruction. -/
theorem loaded_lines_are_final (stackSize : Int) (layout : Layout) (commands : List Command) :
    (∀ t, stripComment (stripComment t) = stripComment t) ∧
    (∀ text l, Listing.read text = .ok l → ∀ line ∈ l.lines, Final line) ∧
    let s := reached stackSize layout commands
    (∀ line ∈ s.machine.code, Final line) ∧ ∀ cause, s.step.result ≠ .error (.run (.refused cause)) := by
  refine ⟨stripComment_stripComment, fun _ _ => Listing.final_of_read, ?_⟩
  intro s
  have hfinal := final_reached stackSize layout commands
  exact ⟨hfinal, step_ne_refused (request_of_initialized stackSize layout commands) hfinal⟩

/-- A line with a comment of each sort and a tabulator. -/
def remarkedText : Text := "1000: 00000000   add x1,\tx2, /* two */ x3 // sum ; all\n"

def remarkedListing : Listing := ⟨some 0x1000, ["add x1, x2, x3"], []⟩

def remarkedDevice : Device where
  working := "/"
  scratch := []
  nodes := [(["sum.lst".toList], .file (Utf8.encode remarkedText))]
  room := 0x10000
  depth := 100

def remarkedRequest : LoadRequest := ⟨"sum.lst", 0x1000, 0x2000, 0x8000⟩

theorem remarked_line_is_final :
    Listing.read remarkedText = .ok remarkedListing ∧ Final "add x1, x2, x3" ∧
      let s := reached 0x100 Layout.standard [.load remarkedDevice remarkedRequest]
      s.initialized = true ∧ s.machine.code = ["add x1, x2, x3".toList] ∧ (∀ line ∈ s.machine.code, Final line) ∧
        ∀ cause, s.step.result ≠ .error (.run (.refused cause)) := by
  have hlisting : Listing.read remarkedText = .ok remarkedListing := by decide +kernel
  have hread : Emulator.readText remarkedDevice "sum.lst" = .ok remarkedText :=
    Emulator.readText_of_encoded (by decide) (by decide) (by decide)
  have hlist : (Emulator.listingOf "sum.lst" remarkedText 0x1000).2 = .ok remarkedListing := by
    rw [Emulator.listingOf, if_pos (by decide +kernel)]
    exact hlisting
  obtain ⟨-, hready, -, hmachine⟩ := (Session.create (Emulator.create 0x100) Layout.standard).load_of_program?
    (r := remarkedRequest) (Emulator.program?_of_listing hread hlist) (by decide) (by decide) (by decide)
  obtain ⟨-, hlines, hsession⟩ := loaded_lines_are_final 0x100 Layout.standard [.load remarkedDevice remarkedRequest]
  refine ⟨hlisting, hlines _ _ hlisting _ (by decide), hready, ?_, hsession⟩
  exact congrArg Emulator.code hmachine

end Stepper
