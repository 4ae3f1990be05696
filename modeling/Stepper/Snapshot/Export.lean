import Stepper.Snapshot.Page

/-! Writing the page of a session to a file, as a whole or not at all. -/

namespace Stepper

/-- Why a page was not written to its target. -/
inductive ExportError where
  | unwritable (target : Text) (cause : FileError)
  | fault (cause : Fault)
  deriving DecidableEq, Repr

def ExportError.message : ExportError → Text
  | unwritable target cause => "Failed to export snapshot to " ++ target ++ ": " ++ cause.message
  | fault cause => cause.message

namespace Snapshot

/-- A page that was asked for without a path goes under the session's name for exports into the working
directory. -/
def exportTarget (s : Session) : Option Text → Path
  | some path => Path.ofText path
  | none => Path.inWorking s.layout.exportName

/-- The path that was written. The session is only read. -/
def write (s : Session) (d : Device) (path : Option Text) (m : Device.Mishaps := {}) :
    Outcome Device ExportError Path :=
  let target := exportTarget s path
  if target.hasNull then .error d [] (.fault .nullInPath)
  else
    let (d', result) := d.replace target (Utf8.encode (render s)) m
    match result with
    | .error (.failed cause) => .error d' [] (.unwritable (target.render d.working) cause)
    | .error (.leftover cause) => .error d' [] (.fault (.leftover cause))
    | .ok () => .ok d' [⟨.info, "Exported to " ++ target.render d.working⟩] target

end Snapshot

end Stepper
