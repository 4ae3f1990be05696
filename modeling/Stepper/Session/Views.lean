import Stepper.Session.Basic
import Stepper.View.Window

/-! What the panels show of a session. Before a program is loaded every view is empty. -/

namespace Stepper

structure CodeLine where
  index : Nat
  address : Int
  text : Text
  current : Bool
  deriving DecidableEq, Repr

structure RegisterRow where
  register : Reg
  value : Int
  used : Bool
  deriving DecidableEq, Repr

structure StackRow where
  index : Nat
  address : Int
  value : Nat
  deriving DecidableEq, Repr

namespace Session

def codeWindow (s : Session) : Window :=
  match s.currentIndex with
  | none => Window.empty
  | some index => Window.around index s.machine.code.length s.layout.codeLines s.layout.lookBehind

def codeLine? (s : Session) (index : Nat) : Option CodeLine :=
  s.machine.code[index]?.map fun text =>
    ⟨index, s.machine.codeStart + index * Asm.instructionSize, text, s.currentIndex = some (index : Int)⟩

def codeInView (s : Session) : List CodeLine :=
  s.codeWindow.indices.filterMap s.codeLine?

def allCode (s : Session) : List CodeLine :=
  if s.initialized then (List.range s.machine.code.length).filterMap s.codeLine? else []

def registerTable (s : Session) : List RegisterRow :=
  if s.initialized then Reg.all.map fun r => ⟨r, s.machine.cpu.get r, s.machine.cpu.isUsed r⟩ else []

def stackWindow (s : Session) : Window :=
  if s.initialized then Window.tail s.machine.cpu.region.wordCount s.layout.stackLines else Window.empty

def stackRows (s : Session) : List StackRow :=
  let region := s.machine.cpu.region
  s.stackWindow.indices.map fun i => ⟨i, region.addressOf i, region.wordAtIndex i⟩

end Session

end Stepper
