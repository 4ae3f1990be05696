import Stepper.CommandLine.Run
import Stepper.Desktop.Event

/-! Opening the window for a command line. -/

namespace Stepper.Desktop

variable (T : Toolkit)

/-- The window before the load that the command line asks for. -/
def Workbench.launched (l : CommandLine.Launch) : Workbench T × Except Fault Unit :=
  (create T l.session l.config l.configPath l.verbose).update

/-- The window as it is first shown. -/
def Workbench.opening (l : CommandLine.Launch) (d : Device) : Reply T :=
  let (w, result) := launched T l
  match result, l.request with
  | .error f, _ => .failing w d [] f
  | .ok (), none => .silent w d
  | .ok (), some r =>
    let reply := w.load d r
    { reply with result := reply.result.map fun _ => none }

end Stepper.Desktop
