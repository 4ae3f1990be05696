import Stepper.Input.Fields
import Stepper.Machine.Emulator
import Stepper.Numeral.Lenient

/-! A debugging session: a machine, the load that it goes back to on reset, and the three input fields.
Every command may come in any state; those that need a program do nothing until one is loaded. -/

namespace Stepper

/-- What was loaded last. -/
structure LoadRequest where
  path : Text
  pcStart : Int
  pcEnd : Int
  spStart : Int
  deriving DecidableEq, Repr

inductive StepError where
  | outsideListing (pc index : Int) (length : Nat)
  | run (cause : RunError)
  | fault (cause : Fault)
  deriving DecidableEq, Repr

namespace StepError

def message : StepError → Text
  | outsideListing pc index length =>
    "PC " ++ Numeral.shown pc ++ " maps to code index " ++ Numeral.decimal index ++
      " outside the listing (0.." ++ Numeral.decimal (length - 1) ++ ")"
  | run cause => cause.message
  | fault cause => cause.message

/-- There is no line at an index. The message needs the index in decimal, and it may be too long for that. -/
def outside (pc index : Int) (length : Nat) : StepError :=
  match Numeral.writeDecimal index with
  | .ok _ => outsideListing pc index length
  | .error cause => fault (.digits cause)

/-- What no command foresees. -/
def fault? : StepError → Option Fault
  | run (.fault cause) => some cause
  | fault cause => some cause
  | _ => none

end StepError

structure StepOutcome where
  executed : Bool
  halted : Bool
  address : Option Int
  instruction : Option Text
  deriving DecidableEq, Repr

/-- The register and the stack word that a commit changed. -/
structure CommitResult where
  register : Option Reg
  stackIndex : Option Nat
  deriving DecidableEq, Repr

def CommitResult.applied (r : CommitResult) : Bool :=
  r.register.isSome || r.stackIndex.isSome

/-- Sizes of the panels and of the input fields, and the name under which a page is exported. -/
structure Layout where
  codeLines : Int
  lookBehind : Int
  stackLines : Int
  inputCapacity : Nat
  exportName : Text
  deriving DecidableEq, Repr

def Layout.standard : Layout :=
  ⟨20, 5, 20, Editor.defaultCapacity, "web_export.html"⟩

structure Session where
  machine : Emulator
  layout : Layout
  fields : Fields
  request : Option LoadRequest
  initialized : Bool
  deriving DecidableEq

namespace Session

def create (machine : Emulator) (layout : Layout) : Session :=
  ⟨machine, layout, Fields.ofCapacity layout.inputCapacity, none, false⟩

def pc (s : Session) : Int :=
  s.machine.cpu.get .pc

def isHalted (s : Session) : Bool :=
  match s.request with
  | some r => s.initialized && s.pc == r.pcEnd
  | none => false

/-- The index of the line at the program counter, which need not exist. -/
def currentIndex (s : Session) : Option Int :=
  if s.initialized then some ((s.pc - s.machine.codeStart) / Asm.instructionSize) else none

/-- Loads the machine and notes whether that went well. -/
def start (s : Session) (d : Device) (r : LoadRequest) : Outcome Session LoadError Unit :=
  let loaded := s.machine.load d r.path r.pcStart r.spStart
  ⟨{ s with machine := loaded.state, initialized := loaded.result.toOption.isSome }, loaded.log,
    loaded.result⟩

def clearFields (s : Session) : Session :=
  { s with fields := s.fields.clearAll.release }

/-- Loads a program and remembers the request; a failed load keeps the request before it. -/
def load (s : Session) (d : Device) (r : LoadRequest) : Outcome Session LoadError Unit :=
  let done := s.start d r
  match done.result with
  | .error e => .error done.state done.log e
  | .ok () =>
    .ok { done.state with request := some r }.clearFields
      (done.log ++ [⟨.info, "Loaded " ++ r.path ++ " (pc " ++ Numeral.shown r.pcStart ++ ".." ++
        Numeral.shown r.pcEnd ++ ", sp " ++ Numeral.shown r.spStart ++ ")"⟩]) ()

/-- Repeats the remembered load; false if there was none. -/
def reset (s : Session) (d : Device) : Outcome Session LoadError Bool :=
  match s.request with
  | none => .ok s [] false
  | some r =>
    let done := s.start d r
    match done.result with
    | .error e => .error done.state done.log e
    | .ok () => .ok done.state (done.log ++ [⟨.info, "Reset " ++ r.path⟩]) true

def withMachine (s : Session) (e : Emulator) : Session :=
  { s with machine := e }

/-- Runs the line at the program counter, which already points behind the line while it runs. Nothing is
run at the end address. -/
def step (s : Session) : Outcome Session StepError StepOutcome :=
  match s.initialized, s.request with
  | true, some r =>
    let pc := s.pc
    if pc = r.pcEnd then .ok s [] ⟨false, true, some pc, none⟩
    else
      let offset := pc - s.machine.codeStart
      let index := offset / Asm.instructionSize
      match if offset < 0 then none else s.machine.code[index.toNat]? with
      | none => .error s [] (.outside pc index s.machine.code.length)
      | some text =>
        let next := Word.wrap (pc + Asm.instructionSize)
        let advanced := { s.machine with cpu := s.machine.cpu.put .pc next }
        let log := [⟨.info, Numeral.shown pc ++ " " ++ text⟩]
        let (machine, result) := advanced.performLine text
        let s' := s.withMachine machine
        match result with
        | .error cause => .error s' log (.run cause)
        | .ok () => .ok s' log ⟨true, s'.isHalted, some pc, some text⟩
  | _, _ => .ok s [] ⟨false, false, none, none⟩

/-- The register part of a commit. -/
def commitRegister (e : Emulator) (register value : Text) : Outcome Emulator Fault (Option Reg) :=
  if register.isEmpty then .ok e [] none
  else match Numeral.readDecimal register with
    | .error cause => .error e [] (.digits cause)
    | .ok n =>
      match Reg.ofInt? n, value.isEmpty with
      | some r, false =>
        match Numeral.readWord value with
        | .error cause => .error e [] (.digits cause)
        | .ok v =>
          .ok { e with cpu := (e.cpu.put r v).markUsed r }
            [⟨.info, "Set register " ++ r.name ++ " to " ++ Numeral.shown v⟩] (some r)
      | _, _ =>
        .ok e [⟨.debug, "Register edit skipped: register=" ++ Text.quote register ++ " value=" ++
          Text.quote value⟩] none

/-- The memory part of a commit. -/
def commitMemory (e : Emulator) (memory value : Text) : Outcome Emulator Fault (Option Nat) :=
  if memory.isEmpty || value.isEmpty then .ok e [] none
  else match Numeral.readWord memory, Numeral.readWord value with
    | .error cause, _ => .error e [] (.digits cause)
    | .ok _, .error cause => .error e [] (.digits cause)
    | .ok address, .ok v =>
      match e.cpu.region.writeWordAt address v with
      | .error cause => .ok e [⟨.debug, "Memory edit skipped: " ++ cause.message⟩] none
      | .ok (index, region) =>
        .ok { e with cpu := { e.cpu with stack := region.data } }
          [⟨.info, "Set memory at " ++ Numeral.shown address ++ " to " ++ Numeral.shown v⟩] (some index)

/-- Writes what the fields say into the machine, as far as it can be written, and empties the fields. A number with
too many digits ends it before they are emptied. -/
def commit (s : Session) : Outcome Session Fault CommitResult :=
  if s.initialized then
    let value := s.fields.text .value
    let edited := commitRegister s.machine (s.fields.text .register) value
    match edited.result with
    | .error cause => .error (s.withMachine edited.state) edited.log cause
    | .ok register =>
      let written := commitMemory edited.state (s.fields.text .memory) value
      match written.result with
      | .error cause => .error (s.withMachine written.state) (edited.log ++ written.log) cause
      | .ok index => .ok (s.withMachine written.state).clearFields (edited.log ++ written.log) ⟨register, index⟩
  else .ok s.clearFields [] ⟨none, none⟩

def activate (s : Session) (target : Option FieldId) : Session :=
  { s with fields := s.fields.activate target }

def releaseFocus (s : Session) : Session :=
  { s with fields := s.fields.release }

def typeText (s : Session) (t : Text) : Nat × Session :=
  let (n, fields) := s.fields.typeText t
  (n, { s with fields := fields })

/-- Gives a key to the active field; the return key commits. False if no field took it. -/
def press (s : Session) (key : EditKey) : Outcome Session Fault Bool :=
  match s.fields.active with
  | none => .ok s [] false
  | some _ =>
    if key = .enter then
      let o := s.commit
      ⟨o.state, o.log, o.result.map fun _ => true⟩
    else
      let (taken, fields) := s.fields.press key
      .ok { s with fields := fields } [] taken

end Session

end Stepper
