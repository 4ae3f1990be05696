import Stepper.Asm.Listing
import Stepper.Machine.Cpu

/-! The instruction set. An operation reads, checks and writes the processor step by step, and a refusal in
the middle keeps what was written before it. -/

namespace Stepper

open Asm

inductive ExecutionCause where
  | operandCount (count : Nat) (mnemonic : Text)
  | returnOperands
  | operand (mnemonic shown : Text)
  | destination (mnemonic shown : Text)
  | notMemory (mnemonic shown : Text)
  | outsideStack (address bottom top : Int)
  | unknownLabel (shown : Text)
  | branchTarget (mnemonic shown : Text)
  | unknownInstruction (mnemonic : Text)
  deriving DecidableEq, Repr

def ExecutionCause.message : ExecutionCause → Text
  | operandCount count mnemonic =>
    "Expected " ++ Numeral.natDecimal count ++ " operands for " ++ mnemonic
  | returnOperands => "Expected at most 1 operand for RET"
  | operand mnemonic shown => "Unsupported operand for " ++ mnemonic ++ ": " ++ shown
  | destination mnemonic shown => "Unsupported destination for " ++ mnemonic ++ ": " ++ shown
  | notMemory mnemonic shown => "Expected memory operand for " ++ mnemonic ++ ": " ++ shown
  | outsideStack address bottom top =>
    "Memory access at " ++ Numeral.shown address ++ " outside stack [" ++ Numeral.shown bottom ++ ", " ++
      Numeral.shown top ++ ")"
  | unknownLabel shown => "Unknown label: " ++ shown
  | branchTarget mnemonic shown => "Unsupported branch target for " ++ mnemonic ++ ": " ++ shown
  | unknownInstruction mnemonic => "Unknown instruction: " ++ mnemonic

structure ExecutionError where
  cause : ExecutionCause
  text : Text
  deriving DecidableEq, Repr

def ExecutionError.message (e : ExecutionError) : Text :=
  e.cause.message

inductive Arithmetic where
  | add
  | sub
  | mul
  | and
  | orr
  | eor
  | lsl
  | lsr
  deriving DecidableEq, Repr

/-- The result of operands that are words, before it is wrapped. Shifts go by the amount modulo 64. -/
def Arithmetic.apply (a b : Int) : Arithmetic → Int
  | add => a + b
  | sub => a - b
  | mul => a * b
  | and => (a.toNat &&& b.toNat : Nat)
  | orr => (a.toNat ||| b.toNat : Nat)
  | eor => (a.toNat ^^^ b.toNat : Nat)
  | lsl => (a.toNat <<< (b.toNat % 64) : Nat)
  | lsr => (a.toNat >>> (b.toNat % 64) : Nat)

inductive Operation where
  | nop
  | mov
  | arithmetic (op : Arithmetic)
  | ldr
  | str
  | b
  | bl
  | ret
  | compareBranch (onZero : Bool)
  deriving DecidableEq, Repr

/-- An instruction as the list of instructions presents it. -/
structure Definition where
  mnemonic : Text
  summary : Text
  form : Text
  operation : Operation
  deriving DecidableEq, Repr

namespace Operation

def definitions : List Definition := [
  ⟨"NOP", "No operation", "nop", .nop⟩,
  ⟨"MOV", "Copy a register or immediate", "mov xd, xn|#imm", .mov⟩,
  ⟨"ADD", "Add", "add xd, xn, xm|#imm", .arithmetic .add⟩,
  ⟨"SUB", "Subtract", "sub xd, xn, xm|#imm", .arithmetic .sub⟩,
  ⟨"MUL", "Multiply", "mul xd, xn, xm", .arithmetic .mul⟩,
  ⟨"AND", "Bitwise and", "and xd, xn, xm|#imm", .arithmetic .and⟩,
  ⟨"ORR", "Bitwise or", "orr xd, xn, xm|#imm", .arithmetic .orr⟩,
  ⟨"EOR", "Bitwise exclusive or", "eor xd, xn, xm|#imm", .arithmetic .eor⟩,
  ⟨"LSL", "Logical shift left", "lsl xd, xn, xm|#imm", .arithmetic .lsl⟩,
  ⟨"LSR", "Logical shift right", "lsr xd, xn, xm|#imm", .arithmetic .lsr⟩,
  ⟨"LDR", "Load a 64-bit word from the stack", "ldr xt, [xn\x7b, #off\x7d]", .ldr⟩,
  ⟨"STR", "Store a 64-bit word to the stack", "str xt, [xn\x7b, #off\x7d]", .str⟩,
  ⟨"B", "Branch", "b label|addr", .b⟩,
  ⟨"BL", "Branch with link (x30 = return address)", "bl label|addr", .bl⟩,
  ⟨"RET", "Return to x30 or the given register", "ret \x7bxn\x7d", .ret⟩,
  ⟨"CBZ", "Branch if register is zero", "cbz xt, label|addr", .compareBranch true⟩,
  ⟨"CBNZ", "Branch if register is not zero", "cbnz xt, label|addr", .compareBranch false⟩]

/-- The operation of a mnemonic in any letter case. -/
def named? (mnemonic : Text) : Option Operation :=
  (definitions.find? (·.mnemonic == Unicode.upper mnemonic)).map (·.operation)

/-- A computation on the processor. -/
abbrev Execution := ExceptT ExecutionError (StateM Cpu)

def refuse {α : Type} (i : Instruction) (cause : ExecutionCause) : Except ExecutionError α :=
  .error ⟨cause, i.text⟩

/-- The value of a source operand. -/
def valueOf (c : Cpu) (i : Instruction) (o : Operand) : Except ExecutionError Int :=
  match o.kind with
  | .reg r => .ok (c.get r)
  | .zero => .ok 0
  | .imm v => .ok (Word.wrap v)
  | _ => refuse i (.operand i.mnemonic o.text)

/-- Writes a register; what goes to the zero register is dropped. -/
def writeTo (i : Instruction) (o : Operand) (v : Int) : Execution Unit :=
  match o.kind with
  | .reg r => modify (·.setReg r v)
  | .zero => pure ()
  | _ => refuse i (.destination i.mnemonic o.text)

/-- The address of a memory operand whose whole word lies in the stack. -/
def addressOf (c : Cpu) (i : Instruction) (o : Operand) : Except ExecutionError Int :=
  match o.kind with
  | .mem base offset =>
    let address := Word.wrap (c.get base + offset)
    if c.inStack address Word.bytes then .ok address
    else refuse i (.outsideStack address c.stackBottom c.stackTop)
  | _ => refuse i (.notMemory i.mnemonic o.text)

def targetOf (l : Listing) (i : Instruction) (o : Operand) : Except ExecutionError Int :=
  match o.kind with
  | .imm v => .ok (Word.wrap v)
  | .label name =>
    match l.labelAddress? name with
    | some address => .ok address
    | none => refuse i (.unknownLabel o.text)
  | _ => refuse i (.branchTarget i.mnemonic o.text)

/-- The number of operands that an operation takes, if it is fixed. -/
def arity? : Operation → Option Nat
  | nop => some 0
  | mov => some 2
  | arithmetic _ => some 3
  | ldr => some 2
  | str => some 2
  | b => some 1
  | bl => some 1
  | ret => none
  | compareBranch _ => some 2

/-- Runs an operation on operands whose number is right. -/
def run (l : Listing) (i : Instruction) : Operation → List Operand → Execution Unit
  | nop, [] => pure ()
  | mov, [target, source] => do
    let v ← valueOf (← get) i source
    writeTo i target v
  | arithmetic op, [target, left, right] => do
    let a ← valueOf (← get) i left
    let b ← valueOf (← get) i right
    writeTo i target (op.apply a b)
  | ldr, [target, source] => do
    let address ← addressOf (← get) i source
    writeTo i target ((← get).read address Word.bytes)
  | str, [source, target] => do
    let address ← addressOf (← get) i target
    let v ← valueOf (← get) i source
    modify (·.write address v Word.bytes)
  | b, [target] => do
    let address ← targetOf l i target
    modify (·.put .pc address)
  | bl, [target] => do
    let address ← targetOf l i target
    modify fun c => c.setReg .link (c.get .pc)
    modify (·.put .pc address)
  | ret, [] => modify fun c => c.put .pc (c.get .link)
  | ret, [source] => do
    let v ← valueOf (← get) i source
    modify (·.put .pc v)
  | ret, _ => refuse i .returnOperands
  | compareBranch onZero, [source, target] => do
    let v ← valueOf (← get) i source
    if (v == 0) == onZero then
      let address ← targetOf l i target
      modify (·.put .pc address)
  | op, _ => refuse i (.operandCount (op.arity?.getD 0) i.mnemonic)

/-- The processor as an operation leaves it, also when it is refused. -/
def perform (op : Operation) (c : Cpu) (l : Listing) (i : Instruction) :
    Cpu × Except ExecutionError Unit :=
  ((op.run l i i.operands).run.run c).swap

/-- The processor after an operation that is not refused. -/
def execute (op : Operation) (c : Cpu) (l : Listing) (i : Instruction) : Except ExecutionError Cpu :=
  match op.perform c l i with
  | (c', .ok ()) => .ok c'
  | (_, .error e) => .error e

end Operation

end Stepper
