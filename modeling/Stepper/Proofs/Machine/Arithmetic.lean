import Stepper.Proofs.Machine.Range

/-! Instructions as arithmetic on words of 64 bits. What an instruction computes of its operands is the operation on
bit vectors, whatever integers stand in them; a call keeps the address to return to, and the two branches on zero
never go the same way. -/

namespace Stepper

open Asm Unicode

/-! ### Words as bit vectors -/

namespace Word

theorem wrap_eq_toNat (v : Int) : wrap v = (BitVec.ofInt 64 v).toNat := by
  rw [wrap, BitVec.toNat_ofInt]
  unfold limit
  omega

theorem wrap_toNat (w : BitVec 64) : wrap w.toNat = w.toNat :=
  wrap_of_range (Int.natCast_nonneg _) (Int.ofNat_lt.2 w.isLt)

theorem Fits.toNat_ofInt {v : Int} (h : Fits v) : ((BitVec.ofInt 64 v).toNat : Int) = v := by
  rw [← wrap_eq_toNat, wrap_of_range h.1 h.2]

end Word

namespace Arithmetic

def mnemonic : Arithmetic → Text
  | add => "ADD"
  | sub => "SUB"
  | mul => "MUL"
  | and => "AND"
  | orr => "ORR"
  | eor => "EOR"
  | lsl => "LSL"
  | lsr => "LSR"

/-- The operation on words. Shifts go by the amount modulo 64, and zeros fill what they leave. -/
def onWords (a b : BitVec 64) : Arithmetic → BitVec 64
  | add => a + b
  | sub => a - b
  | mul => a * b
  | and => a &&& b
  | orr => a ||| b
  | eor => a ^^^ b
  | lsl => a <<< (b % 64)
  | lsr => a >>> (b % 64)

/-- What is computed of two words wraps to the word of the operation. -/
theorem wrap_apply (op : Arithmetic) (a b : BitVec 64) : Word.wrap (op.apply a.toNat b.toNat) = (op.onWords a b).toNat := by
  have ha := a.isLt
  have hb := b.isLt
  cases op with
  | add => simp [apply, onWords, Word.wrap, Word.limit, BitVec.toNat_add]
  | sub =>
    simp only [apply, onWords, Word.wrap, Word.limit, BitVec.toNat_sub]
    omega
  | mul => simp [apply, onWords, Word.wrap, Word.limit, BitVec.toNat_mul]
  | and => simpa [apply, onWords] using Word.wrap_toNat (a &&& b)
  | orr => simpa [apply, onWords] using Word.wrap_toNat (a ||| b)
  | eor => simpa [apply, onWords] using Word.wrap_toNat (a ^^^ b)
  | lsl => simp [apply, onWords, Word.wrap, Word.limit, BitVec.toNat_shiftLeft]
  | lsr => simpa [apply, onWords] using Word.wrap_toNat (a >>> (b % 64))

end Arithmetic

namespace Operation

/-- The operation of a name is that of the definition with the name in upper case. -/
theorem named?_of_upper {name mnemonic : Text} {op : Option Operation} (h : upper name = mnemonic)
    (hop : (definitions.find? (·.mnemonic == mnemonic)).map (·.operation) = op) : named? name = op := by
  rw [named?, h, hop]

theorem named?_arithmetic {op : Arithmetic} {name : Text} (h : upper name = op.mnemonic) :
    named? name = some (.arithmetic op) :=
  named?_of_upper h (by cases op <;> rfl)

end Operation

/-! ### Operands -/

/-- A register holds a word and is marked; all else is as before. -/
def Cpu.setWord (c : Cpu) (r : Reg) (w : BitVec 64) : Cpu :=
  { c with registers := c.registers.set r w.toNat r.isLt, used := c.used.set r true r.isLt }

/-- Execution goes on at an address; all else is as before. -/
def Cpu.goTo (c : Cpu) (address : Int) : Cpu :=
  { c with registers := c.registers.set Reg.pc address Reg.pc.isLt }

/-- A call keeps the address behind it, and execution goes on at its target. -/
def Cpu.call (c : Cpu) (address : Int) : Cpu :=
  (c.setWord .link (BitVec.ofInt 64 (c.get .pc))).goTo address

theorem Cpu.get_call {c : Cpu} (h : c.Words) (address : Int) :
    (c.call address).get .link = c.get .pc ∧ (c.call address).get .pc = address := by
  have heq : c.call address = ((c.put .link (BitVec.ofInt 64 (c.get .pc)).toNat).markUsed .link).put .pc address := rfl
  rw [heq, get_put, get_put, if_neg (by decide), if_pos rfl]
  exact ⟨((c.get_put .link .link _).trans (if_pos rfl)).trans (h .pc).toNat_ofInt, rfl⟩

namespace Asm.OperandKind

/-- The word that a source stands for. -/
inductive Means (c : Cpu) : OperandKind → BitVec 64 → Prop
  | reg (r : Reg) : Means c (.reg r) (BitVec.ofInt 64 (c.get r))
  | zero : Means c .zero 0
  | imm (v : Int) : Means c (.imm v) (BitVec.ofInt 64 v)

/-- What the processor is once a destination has taken a word. -/
inductive Takes (c : Cpu) (w : BitVec 64) : OperandKind → Cpu → Prop
  | reg (r : Reg) : Takes c w (.reg r) (c.setWord r w)
  | zero : Takes c w .zero c

/-- The address that a branch goes to, which is a word unless it is that of a label. -/
inductive LeadsTo (l : Listing) : OperandKind → Int → Prop
  | imm (v : Int) : LeadsTo l (.imm v) (BitVec.ofInt 64 v).toNat
  | label {name : Text} {a : Int} (h : l.labelAddress? name = some a) : LeadsTo l (.label name) a

end Asm.OperandKind

namespace Operation

open OperandKind

variable {l : Listing} {i : Instruction} {o : Operand} {c c' : Cpu} {w : BitVec 64}

theorem valueOf_of_means (h : c.Words) (ho : o.kind.Means c w) : valueOf c i o = .ok (w.toNat : Int) := by
  unfold valueOf
  generalize o.kind = k at ho
  cases ho with
  | reg r => rw [(h r).toNat_ofInt]
  | zero => rfl
  | imm v => exact congrArg Except.ok (Word.wrap_eq_toNat v)

theorem setReg_eq_setWord (r : Reg) {v : Int} (hv : Word.wrap v = w.toNat) : c.setReg r v = c.setWord r w := by
  rw [Cpu.setReg, hv]
  rfl

theorem finishes_of_takes {v : Int} (hv : Word.wrap v = w.toNat) (ho : o.kind.Takes c w c') :
    Finishes (writeTo i o v) c () c' := by
  unfold writeTo
  generalize o.kind = k at ho
  cases ho with
  | reg r => exact finishes_modify.2 (setReg_eq_setWord r hv).symm
  | zero => exact finishes_pure.2 ⟨rfl, rfl⟩

theorem targetOf_of_leadsTo {a : Int} (ho : o.kind.LeadsTo l a) : targetOf l i o = .ok a := by
  unfold targetOf
  generalize o.kind = k at ho
  cases ho with
  | imm v => exact congrArg Except.ok (Word.wrap_eq_toNat v)
  | label ha => simp only [ha]

theorem toNat_beq_zero (w : BitVec 64) : ((w.toNat : Int) == 0) = decide (w = 0) := by
  rw [Bool.eq_iff_iff, beq_iff_eq, decide_eq_true_iff, Int.natCast_eq_zero, BitVec.toNat_eq]
  rfl

end Operation

/-! ### Instructions -/

namespace Emulator

open Operation OperandKind

variable {e : Emulator} {i : Instruction} {target source left right : Operand} {c : Cpu} {a b w : BitVec 64} {address : Int}

theorem perform_call (hname : upper i.mnemonic = "BL") (hos : i.operands = [target])
    (ha : target.kind.LeadsTo e.listing address) : e.perform i = ({ e with cpu := e.cpu.call address }, .ok ()) := by
  have hop : named? i.mnemonic = some .bl := named?_of_upper hname rfl
  refine perform_of_finishes hop ?_
  rw [hos, Operation.run, finishes_lift_bind]
  refine ⟨address, targetOf_of_leadsTo ha, finishes_bind.2 ⟨(), _, finishes_modify.2 rfl, finishes_modify.2 ?_⟩⟩
  rw [setReg_eq_setWord .link (Word.wrap_eq_toNat _)]
  rfl

/-- A return goes to the address that was kept, also if it names the register. -/
theorem perform_return (hname : upper i.mnemonic = "RET")
    (hos : i.operands = [] ∨ ∃ o, i.operands = [o] ∧ o.kind = .reg .link) :
    e.perform i = ({ e with cpu := e.cpu.goTo (e.cpu.get .link) }, .ok ()) := by
  have hop : named? i.mnemonic = some .ret := named?_of_upper hname rfl
  refine perform_of_finishes hop ?_
  rcases hos with hos | ⟨o, hos, ho⟩
  · rw [hos]
    exact finishes_modify.2 rfl
  · rw [hos, Operation.run, finishes_get_bind, finishes_lift_bind]
    exact ⟨_, by rw [valueOf, ho], finishes_modify.2 rfl⟩

section

variable (h : e.cpu.Words)

include h

theorem perform_arithmetic {op : Arithmetic} (hname : upper i.mnemonic = op.mnemonic)
    (hos : i.operands = [target, left, right])
    (ha : left.kind.Means e.cpu a) (hb : right.kind.Means e.cpu b) (hc : target.kind.Takes e.cpu (op.onWords a b) c) :
    e.perform i = ({ e with cpu := c }, .ok ()) := by
  refine perform_of_finishes (named?_arithmetic hname) ?_
  rw [hos, Operation.run, finishes_get_bind, finishes_lift_bind]
  refine ⟨_, valueOf_of_means h ha, ?_⟩
  rw [finishes_get_bind, finishes_lift_bind]
  exact ⟨_, valueOf_of_means h hb, finishes_of_takes (op.wrap_apply a b) hc⟩

theorem perform_mov (hname : upper i.mnemonic = "MOV") (hos : i.operands = [target, source]) (ha : source.kind.Means e.cpu a)
    (hc : target.kind.Takes e.cpu a c) : e.perform i = ({ e with cpu := c }, .ok ()) := by
  have hop : named? i.mnemonic = some .mov := named?_of_upper hname rfl
  refine perform_of_finishes hop ?_
  rw [hos, Operation.run, finishes_get_bind, finishes_lift_bind]
  exact ⟨_, valueOf_of_means h ha, finishes_of_takes (Word.wrap_toNat a) hc⟩

variable {onZero : Bool} (hop : named? i.mnemonic = some (.compareBranch onZero)) (hos : i.operands = [source, target])
  (hw : source.kind.Means e.cpu w)

include hop hos hw

theorem perform_compareBranch_of_taken (htaken : decide (w = 0) = onZero) (ha : target.kind.LeadsTo e.listing address) :
    e.perform i = ({ e with cpu := e.cpu.goTo address }, .ok ()) := by
  refine perform_of_finishes hop ?_
  rw [hos, Operation.run, finishes_get_bind, finishes_lift_bind]
  refine ⟨_, valueOf_of_means h hw, ?_⟩
  rw [toNat_beq_zero, htaken, if_pos (beq_self_eq_true onZero), finishes_lift_bind]
  exact ⟨address, targetOf_of_leadsTo ha, finishes_modify.2 rfl⟩

/-- A branch that is not taken never looks at its target. -/
theorem perform_compareBranch_of_not_taken (htaken : decide (w = 0) = !onZero) : e.perform i = (e, .ok ()) := by
  refine perform_of_finishes hop ?_
  rw [hos, Operation.run, finishes_get_bind, finishes_lift_bind]
  refine ⟨_, valueOf_of_means h hw, ?_⟩
  rw [toNat_beq_zero, htaken, if_neg (by simp)]
  exact finishes_pure.2 ⟨rfl, rfl⟩

end

end Emulator

open Emulator OperandKind

/-- The instruction set is the arithmetic of words. From registers that hold words, an instruction that computes puts the
word of its operation on bit vectors into its destination, whatever integers its operands are and also where they are
the same register, and changes nothing else; what goes to the zero register changes nothing at all. A call keeps the
address behind it and goes to its target, and as long as that address is kept a return goes back to it. Of the two
branches on one source, one is taken and the other one is not. -/
theorem instructions_compute_words {e : Emulator} (h : e.cpu.Words) :
    (∀ (op : Arithmetic) (i : Instruction) (target left right : Operand) (a b : BitVec 64) (c : Cpu),
      upper i.mnemonic = op.mnemonic → i.operands = [target, left, right] → left.kind.Means e.cpu a →
      right.kind.Means e.cpu b → target.kind.Takes e.cpu (op.onWords a b) c → e.perform i = ({ e with cpu := c }, .ok ())) ∧
    (∀ (i : Instruction) (target source : Operand) (a : BitVec 64) (c : Cpu),
      upper i.mnemonic = "MOV" → i.operands = [target, source] → source.kind.Means e.cpu a → target.kind.Takes e.cpu a c →
      e.perform i = ({ e with cpu := c }, .ok ())) ∧
    (∀ (i : Instruction) (target : Operand) (address : Int),
      upper i.mnemonic = "BL" → i.operands = [target] → target.kind.LeadsTo e.listing address →
      e.perform i = ({ e with cpu := e.cpu.call address }, .ok ()) ∧
      (e.cpu.call address).get .link = e.cpu.get .pc ∧ (e.cpu.call address).get .pc = address ∧
      ∀ (later : Emulator) (j : Instruction), later.cpu.get .link = (e.cpu.call address).get .link →
        upper j.mnemonic = "RET" → (j.operands = [] ∨ ∃ o, j.operands = [o] ∧ o.kind = .reg .link) →
        later.perform j = ({ later with cpu := later.cpu.goTo (e.cpu.get .pc) }, .ok ())) ∧
    ∀ (onZero onOther : Instruction) (source target : Operand) (w : BitVec 64),
      upper onZero.mnemonic = "CBZ" → upper onOther.mnemonic = "CBNZ" → onZero.operands = [source, target] →
      onOther.operands = [source, target] → source.kind.Means e.cpu w →
      (w = 0 → e.perform onOther = (e, .ok ()) ∧ ∀ address, target.kind.LeadsTo e.listing address →
        e.perform onZero = ({ e with cpu := e.cpu.goTo address }, .ok ())) ∧
      (w ≠ 0 → e.perform onZero = (e, .ok ()) ∧ ∀ address, target.kind.LeadsTo e.listing address →
        e.perform onOther = ({ e with cpu := e.cpu.goTo address }, .ok ())) := by
  refine ⟨fun op i target left right a b c hname hos ha hb hc => perform_arithmetic h hname hos ha hb hc,
    fun i target source a c hname hos ha hc => perform_mov h hname hos ha hc, ?_, ?_⟩
  · intro i target address hname hos ha
    obtain ⟨hlink, hpc⟩ := Cpu.get_call h address
    refine ⟨perform_call hname hos ha, hlink, hpc, fun later j hlater hname' hos' => ?_⟩
    rw [perform_return hname' hos', hlater, hlink]
  · intro onZero onOther source target w hz hn hos hos' hw
    have hzero : Operation.named? onZero.mnemonic = some (.compareBranch true) := Operation.named?_of_upper hz rfl
    have hother : Operation.named? onOther.mnemonic = some (.compareBranch false) := Operation.named?_of_upper hn rfl
    refine ⟨fun h0 => ⟨?_, fun address ha => ?_⟩, fun h0 => ⟨?_, fun address ha => ?_⟩⟩
    · exact perform_compareBranch_of_not_taken h hother hos' hw (decide_eq_true h0)
    · exact perform_compareBranch_of_taken h hzero hos hw (decide_eq_true h0) ha
    · exact perform_compareBranch_of_not_taken h hzero hos hw (decide_eq_false h0)
    · exact perform_compareBranch_of_taken h hother hos' hw (decide_eq_false h0) ha

/-- A machine with 3 in its frame pointer, in front of the address 0x4000. -/
def threeMachine : Emulator :=
  { Emulator.create 0x100 with cpu := (Cpu.initial.setWord .fp 3).goTo 0x4000 }

theorem three_is_negated_and_shifted_out :
    threeMachine.cpu.Words ∧
    threeMachine.perform ⟨"sub fp, xzr, fp", "SUB", [⟨.reg .fp, "fp"⟩, ⟨.zero, "xzr"⟩, ⟨.reg .fp, "fp"⟩]⟩ =
      ({ threeMachine with cpu := threeMachine.cpu.setWord .fp 0xfffffffffffffffd }, .ok ()) ∧
    threeMachine.perform ⟨"lsl sp, fp, #-1", "LSL", [⟨.reg .sp, "sp"⟩, ⟨.reg .fp, "fp"⟩, ⟨.imm (-1), "#-1"⟩]⟩ =
      ({ threeMachine with cpu := threeMachine.cpu.setWord .sp 0x8000000000000000 }, .ok ()) ∧
    threeMachine.perform ⟨"mov xzr, fp", "MOV", [⟨.zero, "xzr"⟩, ⟨.reg .fp, "fp"⟩]⟩ = (threeMachine, .ok ()) ∧
    threeMachine.perform ⟨"bl #-4", "BL", [⟨.imm (-4), "#-4"⟩]⟩ =
      ({ threeMachine with cpu := threeMachine.cpu.call 0xfffffffffffffffc }, .ok ()) ∧
    { threeMachine with cpu := threeMachine.cpu.call 0xfffffffffffffffc }.perform ⟨"ret", "RET", []⟩ =
      ({ threeMachine with cpu := (threeMachine.cpu.call 0xfffffffffffffffc).goTo 0x4000 }, .ok ()) ∧
    threeMachine.perform ⟨"cbz fp, 0", "CBZ", [⟨.reg .fp, "fp"⟩, ⟨.imm 0, "0"⟩]⟩ = (threeMachine, .ok ()) := by
  have hwords : threeMachine.cpu.Words := by
    unfold Cpu.Words Word.Fits
    decide
  obtain ⟨hcompute, hmove, hcall, hbranch⟩ := instructions_compute_words hwords
  obtain ⟨hgone, -, -, hback⟩ := hcall ⟨"bl #-4", "BL", [⟨.imm (-4), "#-4"⟩]⟩ _ _ (by decide) rfl (.imm (-4))
  refine ⟨hwords, ?_, ?_, ?_, hgone, ?_, ?_⟩
  · exact hcompute .sub _ _ _ _ 0 3 _ (by decide) rfl .zero (.reg .fp) (.reg .fp)
  · exact hcompute .lsl _ _ _ _ 3 0xffffffffffffffff _ (by decide) rfl (.reg .fp) (.imm (-1)) (.reg .sp)
  · exact hmove _ _ _ 3 _ (by decide) rfl (.reg .fp) .zero
  · exact hback { threeMachine with cpu := threeMachine.cpu.call 0xfffffffffffffffc } _ rfl (by decide) (.inl rfl)
  · exact ((hbranch _ ⟨"cbnz fp, 0", "CBNZ", [⟨.reg .fp, "fp"⟩, ⟨.imm 0, "0"⟩]⟩ _ _ 3 (by decide) (by decide) rfl rfl
      (.reg .fp)).2 (by decide)).1

end Stepper
