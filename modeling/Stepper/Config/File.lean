import Stepper.Config.Basic
import Stepper.Fault

/-! The configuration file. Without a path it is a file of a fixed name in the working directory, which need
not be there. -/

namespace Stepper.Config

/-- Why a configuration was not read or written. -/
inductive AccessError where
  | refused (cause : ConfigError)
  | fault (cause : Fault)
  deriving DecidableEq, Repr

def AccessError.message : AccessError → Text
  | refused cause => cause.message
  | fault cause => cause.message

def fileName : Text := ".asm_visualizer.json"

def defaultPath : Path :=
  Path.inWorking fileName

/-- The file that a path stands for. -/
def fileAt (d : Device) (p : Path) : Except AccessError Path :=
  match p.homeName? with
  | none => .ok p
  | some user =>
    if user.contains '\x00' then .error (.fault .nullInPath)
    else match d.home? user with
      | none => .error (.fault .homeless)
      | some home => .ok (p.fromHome home)

def readFile (d : Device) (p : Path) : Except AccessError Config :=
  match d.read p with
  | .error cause => .error (.refused (.unreadable cause))
  | .ok bytes =>
    match Utf8.readText bytes with
    | .error cause => .error (.fault (.undecodable cause))
    | .ok text =>
      match Json.read d.depth text with
      | .error cause =>
        if cause.fault.isLimit then .error (.fault (.unbearable cause.fault))
        else .error (.refused (.invalidJson (p.render d.working) cause))
      | .ok j => (decode j).mapError .refused

def isPresent (d : Device) (p : Path) : Except AccessError Bool :=
  (d.exists? p).mapError fun cause => .fault (.unlocatable cause)

/-- A missing file of the fixed name stands for the standard configuration. -/
def load (d : Device) : Option Path → Except AccessError Config
  | none => do if ← isPresent d defaultPath then readFile d defaultPath else pure standard
  | some p => do
    let file ← fileAt d p
    if ← isPresent d file then readFile d file else throw (.refused (.notFound (file.render d.working)))

/-- Writes the configuration over the file. If it cannot be written as a whole, what was written until then is left. -/
def save (c : Config) (d : Device) (p : Path) : Device × Except AccessError Unit :=
  match fileAt d p with
  | .error cause => (d, .error cause)
  | .ok file =>
    if file.hasNull then (d, .error (.fault .nullInPath))
    else
      let (text, result) := c.write
      match d.write file (Utf8.encode text) with
      | .error cause => (d, .error (.refused (.unwritable cause)))
      | .ok d' => (d', result.mapError fun cause => .fault (.digits cause))

end Stepper.Config
