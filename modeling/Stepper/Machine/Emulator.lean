import Stepper.Asm.Source
import Stepper.Fault
import Stepper.Machine.Operation
import Stepper.Outcome

/-! The machine under the debugger: a processor and the listing it runs. Loading reads a file as a listing, or
as plain source if no line of it has an address column. -/

namespace Stepper

open Asm

/-- Why a program was not loaded. -/
inductive LoadError where
  | unreadable (path : Text) (cause : FileError)
  | refused (cause : ParseError)
  | fault (cause : Fault)
  deriving DecidableEq, Repr

def LoadError.message : LoadError → Text
  | unreadable path cause => "Cannot read listing " ++ path ++ ": " ++ cause.message
  | refused cause => cause.message
  | fault cause => cause.message

/-- Why an instruction did not run. -/
inductive RunError where
  | refused (cause : ParseError)
  | failed (cause : ExecutionError)
  | fault (cause : Fault)
  deriving DecidableEq, Repr

def RunError.message : RunError → Text
  | refused cause => cause.message
  | failed cause => cause.message
  | fault cause => cause.message

structure Emulator where
  cpu : Cpu
  listing : Listing
  stackSize : Int
  deriving DecidableEq

namespace Emulator

def maxLines : Nat := 500

def create (stackSize : Int) : Emulator :=
  ⟨Cpu.initial, { Listing.empty with codeStart := some 0 }, stackSize⟩

def codeStart (e : Emulator) : Int :=
  e.listing.codeStart.getD 0

def code (e : Emulator) : List Text :=
  e.listing.lines

/-- The text of the program in a file. -/
def readText (d : Device) (path : Text) : Except LoadError Text :=
  let p := Path.ofText path
  if p.hasNull then .error (.fault .nullInPath)
  else match d.read p with
    | .error cause => .error (.unreadable path cause)
    | .ok bytes => (Utf8.readText bytes).mapError fun cause => .fault (.undecodable cause)

/-- The listing in a text, with what was logged on the way. -/
def listingOf (path text : Text) (pcStart : Int) : List LogEntry × Except ParseError Listing :=
  if isAddressListing text then ([], Listing.read text)
  else
    ([⟨.debug, "No address column in " ++ path ++ ", preprocessing as assembly source"⟩],
      Listing.read (prepare text pcStart))

/-- A listing without an address gets that of the entry point. -/
def anchor (pcStart : Int) (l : Listing) : Listing :=
  { l with codeStart := some (l.codeStart.getD pcStart) }

/-- The first lines, and a warning if there are more. -/
def trimListing (l : Listing) : List LogEntry × Listing :=
  if l.lines.length > maxLines then
    ([⟨.warning, "Listing has " ++ Numeral.natDecimal l.lines.length ++ " lines, keeping the first " ++
      Numeral.natDecimal maxLines⟩], { l with lines := l.lines.take maxLines })
  else ([], l)

/-- Takes over a listing and clears the processor for it. -/
def install (e : Emulator) (path : Text) (l : Listing) (pcStart spStart : Int) (room : Nat) :
    Outcome Emulator LoadError Unit :=
  let (warnings, kept) := trimListing (anchor pcStart l)
  let (cpu, result) := e.cpu.reset spStart pcStart e.stackSize room
  let e' := { e with listing := kept, cpu := cpu }
  match result with
  | .error cause => .error e' warnings (.fault (.stackSize cause))
  | .ok () =>
    .ok e' (warnings ++ [⟨.debug, "Loaded " ++ Numeral.natDecimal kept.lines.length ++
      " instructions from " ++ path ++ " at " ++ Numeral.shown e'.codeStart⟩]) ()

/-- Loads the program in a file. Nothing changes before the whole listing is read. -/
def load (e : Emulator) (d : Device) (path : Text) (pcStart spStart : Int) :
    Outcome Emulator LoadError Unit :=
  match readText d path with
  | .error cause => .error e [] cause
  | .ok text =>
    let (notes, listing) := listingOf path text pcStart
    match listing with
    | .error cause => .error e notes (.refused cause)
    | .ok l =>
      let installed := e.install path l pcStart spStart d.room
      { installed with log := notes ++ installed.log }

/-- Runs one instruction; a refused one may have written already. -/
def perform (e : Emulator) (i : Instruction) : Emulator × Except ExecutionError Unit :=
  match Operation.named? i.mnemonic with
  | none => (e, .error ⟨.unknownInstruction i.mnemonic, i.text⟩)
  | some op =>
    let (cpu, result) := op.perform e.cpu e.listing i
    ({ e with cpu := cpu }, result)

/-- Reads and runs one instruction. -/
def performLine (e : Emulator) (text : Text) : Emulator × Except RunError Unit :=
  match Instruction.read text 0 with
  | .error (.refused cause) => (e, .error (.refused cause))
  | .error (.digits cause) => (e, .error (.fault (.digits cause)))
  | .ok i =>
    let (e', result) := e.perform i
    (e', result.mapError .failed)

/-- The machine after a line that is not refused. -/
def run (e : Emulator) (text : Text) : Except RunError Emulator :=
  match e.performLine text with
  | (e', .ok ()) => .ok e'
  | (_, .error cause) => .error cause

end Emulator

end Stepper
