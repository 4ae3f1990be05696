import Stepper.Proofs.Machine.Range
import Stepper.Proofs.Session.Step

/-! The registers of a session. They hold words until a step jumps to a label behind the last word, and no
other command can end that. -/

namespace Stepper

open Asm Operation

/-- The entry point of a load is no negative address. Its end and its stack may be anywhere. -/
def Command.Admissible : Command → Prop
  | .load _ r => 0 ≤ r.pcStart
  | _ => True

namespace Session

/-- A session whose machine is regular, now and after a reset. -/
structure Regular (P : Int → Prop) (s : Session) : Prop where
  machine : s.machine.Regular P
  request : ∀ r ∈ s.request, 0 ≤ r.pcStart

variable {P : Int → Prop} {s : Session} {r : LoadRequest} {line : Text}

theorem regular_commitRegister {e : Emulator} (h : e.Regular P) (register value : Text) :
    (commitRegister e register value).state.Regular P := by
  rcases commitRegister_state e register value with hsame | ⟨r, v, hv, hput⟩
  · rwa [hsame]
  · rw [hput]
    exact ⟨h.registers.put (Numeral.fits_of_readWord hv) r, h.listing⟩

theorem regular_commitMemory {e : Emulator} (h : e.Regular P) (memory value : Text) :
    (commitMemory e memory value).state.Regular P := by
  unfold commitMemory
  split
  · exact h
  · split
    · exact h
    · exact h
    · split
      · exact h
      · exact ⟨h.registers, h.listing⟩

theorem Regular.commit (h : s.Regular P) : s.commit.state.Regular P := by
  refine ⟨?_, by rw [(s.commit_request).1]; exact h.request⟩
  exact commit_machine (P := fun e => e.Regular P) (fun e _ _ he => regular_commitRegister he _ _)
    (fun e _ _ he => regular_commitMemory he _ _) h.machine

/-- Commands other than a step keep a session regular. -/
theorem Regular.after (h : s.Regular P) {c : Command} (hc : c.Admissible) (hstep : c ≠ .step) : (s.after c).Regular P := by
  cases c with
  | load d r =>
    obtain ⟨hmachine, ⟨hrequest, -⟩ | hrequest⟩ := s.load_state d r
    · exact ⟨by rw [Session.after, hmachine]; exact h.machine.load _ _ _ hc, by rw [Session.after, hrequest]; exact h.request⟩
    · refine ⟨by rw [Session.after, hmachine]; exact h.machine.load _ _ _ hc, ?_⟩
      rw [Session.after, hrequest]
      rintro r' ⟨⟩
      exact hc
  | reset d =>
    rcases s.reset_state d with hs | ⟨r, hr, hrequest, hmachine⟩
    · rw [Session.after, hs]
      exact h
    · refine ⟨by rw [Session.after, hmachine]; exact h.machine.load _ _ _ (h.request r hr), ?_⟩
      rw [Session.after, hrequest, ← hr]
      exact h.request
  | step => exact absurd rfl hstep
  | activate target => exact ⟨h.machine, h.request⟩
  | releaseFocus => exact ⟨h.machine, h.request⟩
  | typeText t => exact ⟨h.machine, h.request⟩
  | press key =>
    rcases s.press_state key with hs | hs | ⟨fields, hs⟩
    · rw [Session.after, hs]
      exact h
    · rw [Session.after, hs]
      exact h.commit
    · rw [Session.after, hs]
      exact ⟨h.machine, h.request⟩
  | commit => exact h.commit

/-! ### Steps -/

/-- The next step jumps to a label whose address is no word. -/
def Overshoots (s : Session) : Prop :=
  ∃ r line i op, s.AtLine r line ∧ Instruction.read line 0 = .ok i ∧ named? i.mnemonic = some op ∧
    op.Overshoots s.advanced.cpu s.machine.listing i i.operands

theorem step_elsewhere (h : ∀ r line, ¬ s.AtLine r line) : s.step.state = s := by
  cases hready : s.initialized with
  | false => rw [step_idle hready]; rfl
  | true =>
    cases hr : s.request with
    | none => simp [step, hready, hr, Outcome.ok]
    | some r =>
      by_cases hend : s.pc = r.pcEnd
      · rw [step_halted hready hr hend]; rfl
      · by_cases hout : s.Outside
        · rw [step_outside hready hr hend hout]; rfl
        · obtain ⟨line, hline⟩ := line_of_inside hout
          exact absurd ⟨hready, hr, hend, hout, hline⟩ (h r line)

theorem AtLine.unique {r' : LoadRequest} {line' : Text} (h : s.AtLine r line) (h' : s.AtLine r' line') : line' = line :=
  Option.some.inj (h'.line.symm.trans h.line)

theorem words_advanced (h : s.Regular P) : s.advanced.cpu.Words :=
  h.machine.registers.put_pc (Word.fits_wrap _)

/-- A step with a line to run keeps a session regular, and ends with words unless it overshoots. -/
theorem step_atLine (hs : s.Regular P) (h : s.AtLine r line) :
    s.step.state.machine.cpu.Holds (0 ≤ ·) ∧ s.step.state.machine.listing = s.machine.listing ∧
      (s.step.state.machine.cpu.Words ↔ ¬ s.Overshoots) := by
  have hwords := words_advanced hs
  cases hrun : s.advanced.run line with
  | error cause =>
    rw [(step_failed h hrun).1]
    refine ⟨hwords.holds, rfl, iff_of_true hwords ?_⟩
    rintro ⟨r', line', i, op, hat, hread, hop, hover⟩
    obtain rfl := h.unique hat
    obtain ⟨c, hends⟩ := finishes_of_overshoots hover
    rw [Emulator.run_of_finishes hread hop hends] at hrun
    simp at hrun
  | ok e =>
    rw [(step_executed h hrun).1]
    obtain ⟨i, op, c, hread, hop, hends, rfl⟩ := Emulator.finishes_of_run hrun
    obtain ⟨hholds, hiff⟩ := words_of_effect hwords hs.machine.listing (effect_of_finishes hends)
    refine ⟨hholds, rfl, hiff.trans (not_congr ⟨fun hover => ⟨r, line, i, op, h, hread, hop, hover⟩, ?_⟩)⟩
    rintro ⟨r', line', i', op', hat, hread', hop', hover⟩
    obtain rfl := h.unique hat
    obtain rfl : i = i' := Except.ok.inj (hread.symm.trans hread')
    obtain rfl : op = op' := Option.some.inj (hop.symm.trans hop')
    exact hover

theorem Regular.step (hs : s.Regular (0 ≤ ·)) : s.step.state.Regular (0 ≤ ·) := by
  by_cases h : ∃ r line, s.AtLine r line
  · obtain ⟨r, line, h⟩ := h
    obtain ⟨hregisters, hlisting, -⟩ := step_atLine hs h
    obtain ⟨e, he⟩ := s.step_state
    refine ⟨⟨hregisters, by rw [hlisting]; exact hs.machine.listing⟩, ?_⟩
    rw [he]
    exact hs.request
  · rw [step_elsewhere (by simpa using h)]
    exact hs

theorem not_words_of_overshoots (hs : s.Regular P) (h : s.Overshoots) : ¬ s.step.state.machine.cpu.Words := by
  intro hw
  have hat := h
  obtain ⟨r, line, -, -, hat, -⟩ := hat
  exact (step_atLine hs hat).2.2.1 hw h

theorem words_step (hs : s.Regular P) (hw : s.machine.cpu.Words) (h : ¬ s.Overshoots) : s.step.state.machine.cpu.Words := by
  by_cases hat : ∃ r line, s.AtLine r line
  · obtain ⟨r, line, hat⟩ := hat
    exact (step_atLine hs hat).2.2.2 h
  · rw [step_elsewhere (by simpa using hat)]
    exact hw

/-! ### Runs -/

theorem regular_reached {stackSize : Int} {layout : Layout} {commands : List Command}
    (h : ∀ c ∈ commands, c.Admissible) : (reached stackSize layout commands).Regular (0 ≤ ·) := by
  refine reached_induction ⟨Emulator.regular_create stackSize, by simp [create]⟩ (fun s c hc hs => ?_) h
  by_cases hstep : c = .step
  · subst hstep
    exact hs.step
  · exact hs.after hc hstep

theorem reached_snoc (stackSize : Int) (layout : Layout) (commands : List Command) (c : Command) :
    reached stackSize layout (commands ++ [c]) = (reached stackSize layout commands).after c :=
  runs_append _ _ _

end Session

open Session Text

/-- In a session without loads at negative addresses all registers hold words in every state that is reached,
exactly if no step on the way jumps to a label behind the last word. The program counter is the only register that
can then hold more. -/
theorem registers_hold_words_iff (stackSize : Int) (layout : Layout) {commands : List Command}
    (h : ∀ c ∈ commands, c.Admissible) :
    ((∀ before, before <+: commands → (reached stackSize layout before).machine.cpu.Words) ↔
      ∀ before, before ++ [.step] <+: commands → ¬ (reached stackSize layout before).Overshoots) ∧
    (∀ r, r ≠ .pc → Word.Fits ((reached stackSize layout commands).machine.cpu.get r)) ∧
    0 ≤ (reached stackSize layout commands).pc := by
  have hregular : ∀ before, before <+: commands → (reached stackSize layout before).Regular (0 ≤ ·) :=
    fun before hbefore => regular_reached fun c hc => h c (hbefore.subset hc)
  refine ⟨⟨?_, ?_⟩, ?_, ?_⟩
  · intro hwords before hbefore hover
    have hbad := not_words_of_overshoots (hregular before ((List.prefix_append _ _).trans hbefore)) hover
    have hgood := hwords _ hbefore
    rw [reached_snoc] at hgood
    exact hbad hgood
  · intro hover before
    induction before using List.reverseRecOn with
    | nil => exact fun _ => Cpu.words_initial
    | append_singleton before c ih =>
      intro hbefore
      have hbefore' : before <+: commands := (List.prefix_append _ _).trans hbefore
      have hs := hregular before hbefore'
      rw [reached_snoc]
      by_cases hstep : c = .step
      · subst hstep
        exact words_step hs (ih hbefore') (hover before hbefore)
      · have hwords : (reached stackSize layout before).Regular fun _ => False :=
          ⟨⟨Cpu.holds_false_iff.2 (ih hbefore'), hs.machine.listing⟩, hs.request⟩
        have hc : c.Admissible := h c (hbefore.subset (by simp))
        exact Cpu.holds_false_iff.1 (hwords.after hc hstep).machine.registers
  · intro r hr
    rcases (hregular commands (List.prefix_refl _)).machine.registers r with hfits | ⟨rfl, -⟩
    · exact hfits
    · exact absurd rfl hr
  · rcases (hregular commands (List.prefix_refl _)).machine.registers .pc with hfits | ⟨-, hnonneg⟩
    · exact hfits.1
    · exact hnonneg

/-- A listing of one instruction in the last slot, which branches behind it. -/
def lastSlotText : Text := "fffffffffffffffc: 00000000   b end\nend:\n"

def lastSlotListing : Listing := ⟨some 0xfffffffffffffffc, ["b end".toList], [("end", 1)]⟩

def lastSlotDevice : Device where
  working := "/"
  scratch := []
  nodes := [(["last.lst".toList], .file (Utf8.encode lastSlotText))]
  room := 0x10000
  depth := 100

def lastSlotRequest : LoadRequest := ⟨"last.lst", 0xfffffffffffffffc, 0x1000, 0x8000⟩

theorem stripComment_lastSlot (line : Text) (h : line ∈ lines lastSlotText ++ ["b end".toList]) : stripComment line = line := by
  refine stripComment_of_commentFree ?_
  revert line
  unfold CommentFree
  decide

theorem listingOf_lastSlot :
    (Emulator.listingOf "last.lst" lastSlotText 0xfffffffffffffffc).2 = .ok lastSlotListing := by
  have hlines : lines lastSlotText = ["fffffffffffffffc: 00000000   b end".toList, "end:".toList] := by decide
  have hfirst := stripComment_lastSlot "fffffffffffffffc: 00000000   b end" (by decide)
  have hsecond := stripComment_lastSlot "end:" (by decide)
  have haddressed : isAddressListing lastSlotText = true := by
    rw [isAddressListing, hlines, List.any_cons, Line.read, hfirst]
    rfl
  rw [Emulator.listingOf, if_pos haddressed]
  simp only [Listing.read, hlines, Listing.placeAll, Listing.place, Line.read, hfirst, hsecond]
  rfl

theorem readText_lastSlot : Emulator.readText lastSlotDevice "last.lst" = .ok lastSlotText :=
  Emulator.readText_of_encoded (by decide) (by decide) (by decide)

/-- The session has the listing and stands at its only line. -/
theorem atLine_lastSlot :
    (reached 0x100 Layout.standard [.load lastSlotDevice lastSlotRequest]).AtLine lastSlotRequest "b end" ∧
      (reached 0x100 Layout.standard [.load lastSlotDevice lastSlotRequest]).machine.listing = lastSlotListing := by
  obtain ⟨-, hready, hrequest, hmachine⟩ := (create (Emulator.create 0x100) Layout.standard).load_of_program?
    (r := lastSlotRequest) (Emulator.program?_of_listing readText_lastSlot listingOf_lastSlot) (by decide) (by decide)
    (by decide)
  rw [reached_load]
  refine ⟨⟨hready, hrequest, ?_, ?_, ?_⟩, by rw [hmachine]; rfl⟩
  · rw [pc, hmachine]
    decide
  · unfold Outside index pc
    rw [hmachine]
    decide
  · unfold index pc
    rw [hmachine]
    rfl

/-- The line runs to the address behind the last word. -/
theorem last_slot_overshoots :
    (∀ c ∈ [Command.load lastSlotDevice lastSlotRequest, .step], c.Admissible) ∧
    ¬ ∀ before, before <+: [Command.load lastSlotDevice lastSlotRequest, .step] →
      (reached 0x100 Layout.standard before).machine.cpu.Words := by
  have hadmissible : ∀ c ∈ [Command.load lastSlotDevice lastSlotRequest, .step], c.Admissible := by
    intro c hc
    rcases List.mem_pair.1 hc with rfl | rfl
    · exact (by decide : (0 : Int) ≤ 0xfffffffffffffffc)
    · trivial
  refine ⟨hadmissible, fun hwords => ?_⟩
  obtain ⟨hat, hlisting⟩ := atLine_lastSlot
  have hread : Instruction.read "b end" 0 = .ok ⟨"b end", "B", [⟨.label "end", "end"⟩]⟩ := by
    unfold Instruction.read
    rw [stripComment_lastSlot "b end" (by decide)]
    rfl
  refine (registers_hold_words_iff 0x100 Layout.standard hadmissible).1.1 hwords
    [.load lastSlotDevice lastSlotRequest] (List.prefix_refl _) ⟨_, _, _, .b, hat, hread, rfl, ?_⟩
  rw [hlisting]
  exact ⟨_, _, 0x10000000000000000, rfl, rfl, rfl, by decide⟩

end Stepper
