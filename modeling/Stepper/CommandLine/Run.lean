import Stepper.CommandLine.Blank
import Stepper.Config.File
import Stepper.Snapshot.Export

/-! What a command line does: it lists the instructions, writes a page without a window, or opens the window.
A refused command line or configuration ends with code 2, a refused program or page with code 1. -/

namespace Stepper.CommandLine

/-- What the window is opened with. -/
structure Launch where
  session : Session
  config : Config
  configPath : Path
  request : Option LoadRequest
  verbose : Bool
  deriving DecidableEq

inductive Ending where
  | exit (code : Nat)
  | help
  | usage (error : UsageError)
  | fault (cause : Fault)
  | window (launch : Launch)
  deriving DecidableEq

/-- A fault has no code, and the window has none before it is closed. -/
def Ending.code? : Ending → Option Nat
  | exit code => some code
  | help => some 0
  | usage _ => some 2
  | fault _ => none
  | window _ => none

/-- The name under which the program complains about a command line. -/
def program : Text := "asm-visualizer"

def usage : Text :=
  "usage: " ++ program ++ " [-h] [--pc-start PC_START] [--pc-end PC_END] [--sp-start SP_START] [--config CONFIG] " ++
    "[--export [PATH]] [--list-instructions] [-v] [file]"

def usageLine (e : UsageError) : Text :=
  program ++ ": error: " ++ e.message

structure Report where
  printed : Text
  log : List LogEntry
  device : Device
  ending : Ending
  deriving DecidableEq

namespace Report

def silent (d : Device) (ending : Ending) : Report :=
  ⟨[], [], d, ending⟩

def failed (d : Device) (log : List LogEntry) (cause : Fault) : Report :=
  ⟨[], log, d, .fault cause⟩

def complaint (d : Device) (message : Text) (code : Nat) : Report :=
  ⟨[], [⟨.error, message⟩], d, .exit code⟩

end Report

/-- Each instruction with its form in a column and what it does. -/
def instructionList : Text :=
  Text.unlines (Operation.definitions.map fun d =>
    d.form ++ List.replicate (24 - d.form.length) ' ' ++ [' '] ++ d.summary)

/-- The load that the settings ask for; the configuration gives the addresses that they leave open. -/
def Settings.request (s : Settings) (c : Config) (file : Text) : LoadRequest :=
  let given := c.requestFor file
  { given with
    pcStart := (s.pcStart.value?.map Int.ofNat).getD given.pcStart
    pcEnd := (s.pcEnd.value?.map Int.ofNat).getD given.pcEnd
    spStart := (s.spStart.value?.map Int.ofNat).getD given.spStart }

/-- Loads a program and writes its page; an empty target stands for the usual one. -/
def writePage (s : Session) (d : Device) (r : LoadRequest) (target : Text) (m : Device.Mishaps := {}) : Report :=
  let loaded := s.load d r
  match loaded.result with
  | .error (.fault f) => .failed d loaded.log f
  | .error e => ⟨[], loaded.log ++ [⟨.error, e.message⟩], d, .exit 1⟩
  | .ok () =>
    let written := Snapshot.write loaded.state d (if target.isEmpty then none else some target) m
    let log := loaded.log ++ written.log
    match written.result with
    | .error (.fault f) => .failed written.state log f
    | .error e => ⟨[], log ++ [⟨.error, e.message⟩], written.state, .exit 1⟩
    | .ok _ => ⟨[], log, written.state, .exit 0⟩

def Settings.configPath (s : Settings) : Path :=
  s.config.value?.getD Config.defaultPath

/-- Goes on with a configuration. An empty file is no file. -/
def Settings.proceed (s : Settings) (d : Device) (c : Config) (m : Device.Mishaps := {}) : Report :=
  let session := Session.create (Emulator.create Cpu.defaultStackSize) c.layout
  let request := (s.file.filter (!·.isEmpty)).map (s.request c)
  match request.bind (s.blankUse? session d), s.snapshot, request with
  | some (log, use), _, _ => .failed d log (.blank use)
  | none, some _, none => .complaint d "--export needs a listing to load" 2
  | none, some target, some r => writePage session d r target m
  | none, none, _ => .silent d (.window ⟨session, c, s.configPath, request, s.verbose⟩)

def Settings.run (s : Settings) (d : Device) (m : Device.Mishaps := {}) : Report :=
  if s.listInstructions then ⟨instructionList, [], d, .exit 0⟩
  else if s.config.isBlank then .failed d [] (.blank .path)
  else match Config.load d s.config.value? with
    | .error (.refused cause) => .complaint d cause.message 2
    | .error (.fault f) => .failed d [] f
    | .ok c =>
      let report := s.proceed d c m
      { report with log := report.log.filter (·.isShown s.verbose) }

/-- The whole program, whatever the system refuses while the page is written. -/
def run (arguments : List Text) (d : Device) (m : Device.Mishaps := {}) : Report :=
  match Settings.read arguments with
  | .error .help => .silent d .help
  | .error (.usage e) => .silent d (.usage e)
  | .ok s => s.run d m

/-- The paths that a command line reads or writes, as far as the files at hand tell. -/
def reach (arguments : List Text) (d : Device) : List Path :=
  match Settings.read arguments with
  | .error _ => []
  | .ok s =>
    let exports := match Config.load d s.config.value? with
      | .ok c => [Path.ofText (s.snapshot.getD []), Path.inWorking c.exportName]
      | .error _ => []
    (Config.fileAt d s.configPath).toOption.toList ++ (s.file.map Path.ofText).toList ++ exports

end Stepper.CommandLine
