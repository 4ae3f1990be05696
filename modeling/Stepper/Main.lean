import Stepper.Desktop.Opening

/-! The program: reads the files that the command line reaches, runs it, writes the files that changed. -/

namespace Stepper.Main

/-- What stands at a path. A path that is there and cannot be read as a file is a folder. -/
def nodeAt (shown : String) : IO (Option Node) := do
  try
    pure (some (.file (← IO.FS.readBinFile shown).toList))
  catch
    | .noFileOrDirectory .. => pure none
    | _ => pure (some .folder)

/-- Takes a path and the folders on the way to it into the tree, as far as they are there. -/
def takeIn (d : Device) (p : Path) : IO Device := do
  let mut d := d
  for n in List.range p.names.length do
    let start := { p with names := p.names.take (n + 1) }
    match ← nodeAt (String.ofList (start.render d.working)) with
    | some node =>
      if let .ok place := d.locate start then
        d := d.put place node
    | none => break
  pure d

def shownPlace (working : Text) (place : Place) : String :=
  String.ofList ((Path.ofPlace place).render working)

def putFile (target : String) (bytes : List UInt8) : IO Unit := do
  let scratch := target ++ ".tmp"
  IO.FS.writeBinFile scratch ⟨bytes.toArray⟩
  IO.FS.rename scratch target

def putChanges (before after : Device) : IO Unit := do
  for (place, node) in after.nodes do
    if before.node? place != some node then
      match node with
      | .file bytes => putFile (shownPlace after.working place) bytes
      | .folder => pure ()

def levelName : Level → String
  | .debug => "DEBUG"
  | .info => "INFO"
  | .warning => "WARNING"
  | .error => "ERROR"

def say (t : Text) : IO Unit := do
  (← IO.getStderr).putStrLn (String.ofList t)

/-- A device without any files, that lets a stack have a terabyte. -/
def bareDevice : IO Device := do
  let home ← IO.getEnv "HOME"
  pure {
    working := (← IO.currentDir).toString.toList
    scratch := "new"
    nodes := []
    homes := home.toList.map fun t => ([], t.toList)
    room := 0x10000000000
    depth := 988 }

def run (arguments : List Text) : IO UInt32 := do
  let bare ← bareDevice
  let configured ← (CommandLine.reach arguments bare).foldlM takeIn bare
  let d ← (CommandLine.reach arguments configured).foldlM takeIn configured
  let report := CommandLine.run arguments d
  IO.print (String.ofList report.printed)
  for e in report.log do
    say ((levelName e.level ++ " - ").toList ++ e.message)
  putChanges d report.device
  match report.ending with
  | .help => IO.println (String.ofList CommandLine.usage)
  | .usage e => do
    say CommandLine.usage
    say (CommandLine.usageLine e)
  | .fault f => say f.message
  | .window _ => say "no display: give --export to write a page"
  | .exit _ => pure ()
  pure (UInt32.ofNat (report.ending.code?.getD 1))

end Stepper.Main

def main (arguments : List String) : IO UInt32 :=
  Stepper.Main.run (arguments.map String.toList)
