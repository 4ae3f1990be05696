import Stepper.Proofs.Machine.Memory
import Stepper.Proofs.Machine.Range

/-! What a processor keeps between two programs. Whatever runs on it and whatever is edited by hand, the bounds and
the number of its stack bytes stay, a register that was written stays marked, and one that is not marked was not
written. -/

namespace Stepper

open Asm Operation

namespace Cpu

/-- One processor comes later than the other, with no new program in between. -/
structure Continues (c c' : Cpu) : Prop where
  bottom : c'.stackBottom = c.stackBottom
  top : c'.stackTop = c.stackTop
  length : c'.stack.length = c.stack.length
  used : ∀ r, c.isUsed r = true → c'.isUsed r = true
  kept : ∀ r, r ≠ .pc → c'.isUsed r = false → c'.get r = c.get r

namespace Continues

variable {a b c : Cpu}

theorem refl (c : Cpu) : c.Continues c := ⟨rfl, rfl, rfl, fun _ h => h, fun _ _ _ => rfl⟩

/-- A register that is unmarked at the end was unmarked all along. -/
theorem unused (h : a.Continues b) {r : Reg} (hr : b.isUsed r = false) : a.isUsed r = false := by
  by_contra hused
  simp [h.used r (by simpa using hused)] at hr

theorem trans (h₁ : a.Continues b) (h₂ : b.Continues c) : a.Continues c where
  bottom := h₂.bottom.trans h₁.bottom
  top := h₂.top.trans h₁.top
  length := h₂.length.trans h₁.length
  used r hr := h₂.used r (h₁.used r hr)
  kept r hr hunused := (h₂.kept r hr hunused).trans (h₁.kept r hr (h₂.unused hunused))

theorem filled (h : a.Continues b) (ha : a.Filled) : b.Filled := by
  unfold Filled at ha ⊢
  rw [h.length, h.top, h.bottom]
  exact ha

end Continues

theorem isUsed_markUsed (c : Cpu) (r r' : Reg) : (c.markUsed r).isUsed r' = if r = r' then true else c.isUsed r' := by
  simp [markUsed, isUsed, Vector.getElem_set, Fin.ext_iff]

theorem continues_put_markUsed (c : Cpu) (r : Reg) (v : Int) : c.Continues ((c.put r v).markUsed r) where
  bottom := rfl
  top := rfl
  length := rfl
  used r' hused := by
    rw [isUsed_markUsed]
    split
    · rfl
    · exact hused
  kept r' _ hunused := by
    rw [isUsed_markUsed] at hunused
    split at hunused
    · simp at hunused
    · next hne => exact (get_put c r r' v).trans (if_neg hne)

theorem continues_setReg (c : Cpu) (r : Reg) (v : Int) : c.Continues (c.setReg r v) :=
  continues_put_markUsed c r (Word.wrap v)

/-- The program counter needs no mark. -/
theorem continues_put_pc (c : Cpu) (v : Int) : c.Continues (c.put .pc v) where
  bottom := rfl
  top := rfl
  length := rfl
  used _ hused := hused
  kept r hr _ := (get_put c .pc r v).trans (if_neg (Ne.symm hr))

theorem continues_of_stack (c : Cpu) {stack : List UInt8} (h : stack.length = c.stack.length) :
    c.Continues { c with stack := stack } where
  bottom := rfl
  top := rfl
  length := h
  used _ hused := hused
  kept _ _ _ := rfl

end Cpu

/-- Whatever an operation does that finishes, the processor continues. -/
theorem Operation.continues_of_effect {l : Listing} {i : Instruction} {c c' : Cpu} {op : Operation} {os : List Operand}
    (hc : c.Filled) (h : Effect l i c op os c') : c.Continues c' := by
  cases h with
  | keeps none => exact .refl c
  | sets none r v => exact c.continues_setReg r v
  | stores none inside v => exact c.continues_of_stack (Cpu.length_write v hc inside)
  | returns none source => exact c.continues_put_pc _
  | jumps jump goal => exact c.continues_put_pc _
  | calls jump goal => exact (c.continues_setReg .link (c.get .pc)).trans (Cpu.continues_put_pc _ _)

/-- One machine comes later than the other, with no new program in between. -/
structure Emulator.Continues (e e' : Emulator) : Prop where
  cpu : e.cpu.Continues e'.cpu
  listing : e'.listing = e.listing
  stackSize : e'.stackSize = e.stackSize

namespace Emulator

namespace Continues

variable {a b c : Emulator}

theorem refl (e : Emulator) : e.Continues e := ⟨.refl _, rfl, rfl⟩

theorem trans (h₁ : a.Continues b) (h₂ : b.Continues c) : a.Continues c :=
  ⟨h₁.cpu.trans h₂.cpu, h₂.listing.trans h₁.listing, h₂.stackSize.trans h₁.stackSize⟩

end Continues

theorem continues_cpu (e : Emulator) {c : Cpu} (h : e.cpu.Continues c) : e.Continues { e with cpu := c } :=
  ⟨h, rfl, rfl⟩

/-- A line that runs or fails, as it may. -/
theorem continues_performLine {e : Emulator} (h : e.cpu.Filled) (line : Text) : e.Continues (e.performLine line).1 := by
  have hline := runsLine e line
  generalize e.performLine line = ran at hline
  cases hline with
  | refused => exact .refl e
  | unread => exact .refl e
  | unknown => exact .refl e
  | failed read some ends =>
    rw [atomic_run _ _ _ _ _ _ _ ends]
    exact .refl e
  | done read some ends => exact e.continues_cpu (continues_of_effect h (effect_of_finishes ends))

end Emulator

end Stepper
