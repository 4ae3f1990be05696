import Stepper.Proofs.Machine.Range
import Stepper.Proofs.Machine.Simulation

/-! Lines that do not branch. No operand names the program counter, so a line of any other instruction leaves it where
it is, and lines in a row run as their instructions one after the other. -/

namespace Stepper

open Asm Unicode

/-! ### Operands -/

namespace Asm

theorem registerNamed?_ne_pc {name : Text} {r : Reg} (h : registerNamed? name = some r) : r ≠ .pc := by
  have hall : ∀ x ∈ registerNames, x.2 ≠ .pc := by decide +kernel
  obtain ⟨before, behind, heq, -⟩ := List.lookup_eq_some_iff.1 h
  exact hall (name, r) (by simp [heq])

/-- No spelling of an operand is the program counter. -/
theorem read_ne_pc (raw : Text) : OperandKind.read raw ≠ .ok (.reg .pc) := by
  intro h
  cases readAs h with
  | reg hr => exact registerNamed?_ne_pc hr rfl

theorem kind_ne_pc_of_read {t : Text} {o : Operand} (h : Operand.read t = .ok o) : o.kind ≠ .reg .pc := by
  cases hk : OperandKind.read (Text.trim t) with
  | error cause => simp [Operand.read, hk, Except.map] at h
  | ok k =>
    rw [Operand.read, hk] at h
    obtain rfl := Except.ok.inj h
    exact fun hpc => read_ne_pc _ (hk.trans (congrArg _ hpc))

/-- An instruction has its mnemonic in upper case, and its operands are read one by one. -/
theorem Instruction.exists_of_read {text : Text} {lineNo : Int} {i : Instruction}
    (h : Instruction.read text lineNo = .ok i) :
    ∃ w texts os, (texts : List Text).mapM Operand.read = .ok os ∧ i = ⟨text, upper w, os⟩ := by
  unfold Instruction.read at h
  split at h
  · simp at h
  · obtain ⟨os, hos, rfl⟩ := mapM_of_ofParts h
    exact ⟨_, _, os, hos, rfl⟩

/-- The instructions that may go elsewhere. -/
def branchNames : List Text := ["B", "BL", "RET", "CBZ", "CBNZ"]

/-- A line is an instruction that may go elsewhere. -/
def Branches (line : Text) : Prop :=
  ∃ i, Instruction.read line 0 = .ok i ∧ i.mnemonic ∈ branchNames

end Asm

/-! ### Operations -/

theorem Cpu.get_setReg (c : Cpu) (r r' : Reg) (v : Int) :
    (c.setReg r v).get r' = if r = r' then Word.wrap v else c.get r' :=
  c.get_put r r' _

namespace Operation

def branches : Operation → Bool
  | b => true
  | bl => true
  | ret => true
  | compareBranch _ => true
  | _ => false

variable {op : Operation} {l : Listing} {i : Instruction} {o : Operand} {os : List Operand} {c c' : Cpu}

theorem get_pc_of_writeTo (ho : o.kind ≠ .reg .pc) {v : Int} (h : Finishes (writeTo i o v) c () c') :
    c'.get .pc = c.get .pc := by
  unfold writeTo at h
  split at h
  · next r hr =>
    obtain rfl := finishes_modify.1 h
    have hne : r ≠ .pc := fun heq => ho (heq ▸ hr)
    rw [Cpu.get_setReg, if_neg hne]
  · rw [(finishes_pure.1 h).2]
  · exact absurd h finishes_refuse

/-- An operation that is no branch leaves the program counter where it is. -/
theorem get_pc_of_finishes (h : Finishes (op.run l i os) c () c') (hop : op.branches = false)
    (hos : ∀ o ∈ os, o.kind ≠ .reg .pc) : c'.get .pc = c.get .pc := by
  unfold Operation.run at h
  -- Of the operations in their order, the first four end by writing to an operand at the most, and a store goes to the
  -- stack. Behind them come the branches, and operands that no operation takes.
  split at h
  · rw [(finishes_pure.1 h).2]
  · rw [finishes_get_bind, finishes_lift_bind] at h
    obtain ⟨v, -, h⟩ := h
    exact get_pc_of_writeTo (hos _ (by simp)) h
  · rw [finishes_get_bind, finishes_lift_bind] at h
    obtain ⟨a, -, h⟩ := h
    rw [finishes_get_bind, finishes_lift_bind] at h
    obtain ⟨b, -, h⟩ := h
    exact get_pc_of_writeTo (hos _ (by simp)) h
  · rw [finishes_get_bind, finishes_lift_bind] at h
    obtain ⟨address, -, h⟩ := h
    rw [finishes_get_bind] at h
    exact get_pc_of_writeTo (hos _ (by simp)) h
  · rw [finishes_get_bind, finishes_lift_bind] at h
    obtain ⟨address, -, h⟩ := h
    rw [finishes_get_bind, finishes_lift_bind] at h
    obtain ⟨v, -, h⟩ := h
    obtain rfl := finishes_modify.1 h
    rfl
  · simp [branches] at hop
  · simp [branches] at hop
  · simp [branches] at hop
  · simp [branches] at hop
  · simp [branches] at hop
  · simp [branches] at hop
  · exact absurd h finishes_refuse

/-- The branches are known by their names. -/
theorem mem_branchNames_of_branches {w : Text} (hop : named? (upper w) = some op) (h : op.branches = true) :
    upper w ∈ branchNames := by
  have hall : ∀ d ∈ definitions, d.operation.branches = true → d.mnemonic ∈ branchNames := by decide
  obtain ⟨d, hd, hname, rfl⟩ := mnemonic_of_named? hop
  rw [(lettered_of_named? hop).upper_upper] at hname
  exact hname ▸ hall d hd h

end Operation

/-! ### Lines in a row -/

namespace Emulator

open Operation

variable {e e' : Emulator} {line : Text}

def goTo (e : Emulator) (address : Int) : Emulator :=
  { e with cpu := e.cpu.put .pc address }

/-- A line that does not branch leaves the program counter and the listing. -/
theorem run_straight (h : e.run line = .ok e') (hline : ¬Branches line) :
    e'.cpu.get .pc = e.cpu.get .pc ∧ e'.listing = e.listing := by
  obtain ⟨i, op, c, hread, hop, hends, rfl⟩ := finishes_of_run h
  obtain ⟨w, texts, os, hos, rfl⟩ := Instruction.exists_of_read hread
  refine ⟨get_pc_of_finishes hends ?_ ?_, rfl⟩
  · by_contra hbranch
    exact hline ⟨_, hread, mem_branchNames_of_branches hop (by simpa using hbranch)⟩
  · intro o ho
    obtain ⟨t, -, ht⟩ := exists_of_mem_mapM hos ho
    exact kind_ne_pc_of_read ht

/-- The machine after lines that stand in a row from an address on. Each of them runs with the program counter
behind it. -/
def runFrom (e : Emulator) (address : Int) : List Text → Except RunError Emulator
  | [] => .ok e
  | line :: lines =>
    match (e.goTo (address + instructionSize)).run line with
    | .ok e' => e'.runFrom (address + instructionSize) lines
    | .error cause => .error cause

theorem runFrom_cons {address : Int} {lines : List Text} :
    e.runFrom address (line :: lines) = .ok e' ↔
      ∃ e₁, (e.goTo (address + instructionSize)).run line = .ok e₁ ∧
        e₁.runFrom (address + instructionSize) lines = .ok e' := by
  rw [runFrom]
  cases (e.goTo (address + instructionSize)).run line with
  | error cause => simp
  | ok e₁ => simp

end Emulator

end Stepper
