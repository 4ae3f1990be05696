import Stepper.Machine.Register
import Stepper.Machine.Stack

/-! The state of the processor: registers, the flags of those that were written, and the stack bytes between
two bounds. Values are wrapped to words where they are written to a register. -/

namespace Stepper

structure Cpu where
  registers : Vector Int registerCount
  used : Vector Bool registerCount
  stack : List UInt8
  stackBottom : Int
  stackTop : Int
  deriving DecidableEq

/-- Why the stack cannot have a size: it is negative, it is beyond all indices on either side, or no memory
holds so many bytes. -/
inductive StackSizeError where
  | negative
  | noIndex
  | noMemory
  deriving DecidableEq, Repr

def StackSizeError.message : StackSizeError → Text
  | negative => "negative count"
  | noIndex => RegisterError.noIndex.message
  | noMemory => []

namespace Cpu

def defaultStackSize : Int := 0x100

/-- The number of bytes of a stack, if it can have that size where memory has less than `room` bytes to give. -/
def stackBytes (room : Nat) (size : Int) : Except StackSizeError Nat :=
  if size < -indexLimit || indexLimit ≤ size then .error .noIndex
  else if size < 0 then .error .negative
  else if room ≤ size then .error .noMemory
  else .ok size.toNat

/-- A stack of that size, if it is not negative, has room and an index for each of its bytes. -/
def Fits (room : Nat) (size : Int) : Prop :=
  size < room ∧ size < indexLimit

instance (room : Nat) (size : Int) : Decidable (Fits room size) :=
  inferInstanceAs (Decidable (_ ∧ _))

def initial : Cpu :=
  ⟨Vector.replicate registerCount 0, Vector.replicate registerCount false, [], 0, 0⟩

def get (c : Cpu) (r : Reg) : Int :=
  c.registers[r]

def isUsed (c : Cpu) (r : Reg) : Bool :=
  c.used[r]

/-- Writes a register as it is, without marking it. -/
def put (c : Cpu) (r : Reg) (v : Int) : Cpu :=
  { c with registers := c.registers.set r v }

def markUsed (c : Cpu) (r : Reg) : Cpu :=
  { c with used := c.used.set r true }

def setReg (c : Cpu) (r : Reg) (v : Int) : Cpu :=
  (c.put r (Word.wrap v)).markUsed r

/-- Fresh registers and bounds around the old stack bytes. -/
def restart (c : Cpu) (spStart pcStart stackSize : Int) : Cpu :=
  let fresh : Cpu := { initial with
    stack := c.stack, stackBottom := max 0 (spStart - stackSize), stackTop := spStart }
  (fresh.put .sp (Word.wrap spStart)).put .pc (Word.wrap pcStart)

/-- Clears the processor for a program. The registers and the bounds are fresh even if the size between the
bounds is refused; the stack bytes are then those from before. -/
def reset (c : Cpu) (spStart pcStart stackSize : Int) (room : Nat) : Cpu × Except StackSizeError Unit :=
  let fresh := c.restart spStart pcStart stackSize
  match stackBytes room (fresh.stackTop - fresh.stackBottom) with
  | .error cause => (fresh, .error cause)
  | .ok n => ({ fresh with stack := List.replicate n 0 }, .ok ())

def region (c : Cpu) : StackRegion :=
  ⟨c.stack, c.stackBottom, c.stackTop⟩

/-- All of the `size` bytes from an address on lie in the stack. -/
def inStack (c : Cpu) (address size : Int) : Bool :=
  c.stackBottom ≤ address && address + size ≤ c.stackTop

def read (c : Cpu) (address : Int) (size : Nat) : Nat :=
  readBytes c.stack (address - c.stackBottom).toNat size

def write (c : Cpu) (address v : Int) (size : Nat) : Cpu :=
  { c with stack := writeBytes c.stack (address - c.stackBottom).toNat (bytesOfValue size v) }

end Cpu

end Stepper
