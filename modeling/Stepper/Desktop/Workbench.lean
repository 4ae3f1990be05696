import Stepper.Config.File
import Stepper.Desktop.Dialog
import Stepper.Desktop.Screen
import Stepper.Snapshot.Export

/-! The window around a session: a command for each button and key, and what each leaves on the screen. A
program that cannot be loaded or run is reported in the log; only a fault gets out of a command, and the screen is
then drawn no further. -/

namespace Stepper.Desktop

/-- The panel of the log is attached until the window is closed for the first time. -/
structure Workbench (T : Toolkit) where
  session : Session
  config : Config
  configPath : Path
  verbose : Bool
  screen : Screen T
  isAttached : Bool
  isClosed : Bool

/-- Events that go on to the toolkit. -/
inductive Passed where
  | key
  | mouse
  | focus
  | close
  deriving DecidableEq, Repr

/-- What a command answers. `dialog` is the dialog as it opened, if one did, and the result tells of a load or
of a move of the focus whether it happened. -/
structure Reply (T : Toolkit) where
  window : Workbench T
  device : Device
  log : List LogEntry
  warnings : List Warning
  dialog : Option (Dialog T)
  passed : List Passed
  result : Except Fault (Option Bool)

variable {T : Toolkit}

namespace Reply

def silent (w : Workbench T) (d : Device) : Reply T :=
  ⟨w, d, [], [], none, [], .ok none⟩

def logging (w : Workbench T) (d : Device) (log : List LogEntry) : Reply T :=
  { silent w d with log := log }

def failing (w : Workbench T) (d : Device) (log : List LogEntry) (f : Fault) : Reply T :=
  { logging w d log with result := .error f }

def passing (w : Workbench T) (d : Device) (p : Passed) : Reply T :=
  { silent w d with passed := [p] }

/-- After a window was drawn, as far as it could be. -/
def drawn (drawing : Workbench T × Except Fault Unit) (d : Device) (log : List LogEntry) (answer : Option Bool := none) :
    Reply T :=
  { logging drawing.1 d log with result := drawing.2.map fun _ => answer }

def shownLog (r : Reply T) : List LogEntry :=
  r.log.filter (·.isShown r.window.verbose)

/-- The lines that the panel of the log gains. -/
def panelLines (r : Reply T) : List Text :=
  if r.window.isAttached then r.shownLog.map (·.message) else []

end Reply

namespace Workbench

def hasFocus (w : Workbench T) : Bool :=
  w.session.fields.active.isSome

def withSession (w : Workbench T) (s : Session) : Workbench T :=
  { w with session := s }

def withScreen (w : Workbench T) (v : Screen T) : Workbench T :=
  { w with screen := v }

def updateInputs (w : Workbench T) : Workbench T :=
  w.withScreen (w.screen.updateInputs w.session)

def update (w : Workbench T) : Workbench T × Except Fault Unit :=
  let (v, result) := w.screen.update w.session
  (w.withScreen v, result)

def updateAs (w : Workbench T) (state : RunState) : Workbench T × Except Fault Unit :=
  (w.withScreen (w.screen.setState w.session state)).update

/-- A new window around a session, before anything is drawn. -/
def create (T : Toolkit) (s : Session) (c : Config) (configPath : Path) (verbose : Bool) : Workbench T :=
  ⟨{ s with fields := s.fields.showAll }, c, configPath, verbose, Screen.blank T, true, false⟩

/-! ### Commands -/

def load (w : Workbench T) (d : Device) (r : LoadRequest) : Reply T :=
  let o := w.session.load d r
  let w' := w.withSession o.state
  match o.result with
  | .ok () =>
    let named := { w' with
      config := w.config.withLoad r
      screen := { w.screen with title := titleFor (Path.ofText r.path) } }
    .drawn (named.updateAs .ready) d o.log (some true)
  | .error (.fault f) => .failing w' d o.log f
  | .error e => .drawn (w'.updateAs .error) d (o.log ++ [⟨.error, "Load failed: " ++ e.message⟩]) (some false)

/-- Opens the dialog and loads what it asks for. -/
def askAndLoad (w : Workbench T) (d : Device) (user : DialogInput) : Reply T :=
  let dialog := Dialog.ofConfig T w.config
  match dialog.answer user with
  | .error warning => { Reply.silent w d with dialog := some dialog, warnings := [warning] }
  | .ok none => { Reply.silent w d with dialog := some dialog }
  | .ok (some r) =>
    let reply := w.load d r
    { reply with dialog := some dialog, result := reply.result.map fun _ => none }

def step (w : Workbench T) (d : Device) : Reply T :=
  let o := w.session.step
  let w' := w.withSession o.state
  match o.result with
  | .error e =>
    match e.fault? with
    | some f => .failing w' d o.log f
    | none => .drawn (w'.updateAs .error) d (o.log ++ [⟨.error, "HALT due to error: " ++ e.message⟩])
  | .ok r =>
    .drawn (if r.halted then w'.updateAs .halted else if r.executed then w'.updateAs .paused else w'.update) d o.log

def reset (w : Workbench T) (d : Device) : Reply T :=
  let o := w.session.reset d
  let w' := w.withSession o.state
  match o.result with
  | .ok done => .drawn (if done then w'.updateAs .ready else w'.update) d o.log
  | .error (.fault f) => .failing w' d o.log f
  | .error e => .drawn (w'.updateAs .error) d (o.log ++ [⟨.error, "Reset failed: " ++ e.message⟩])

/-- Draws the window after the session took a key or a commit, unless that had a fault. -/
def redraw {α : Type} (w : Workbench T) (d : Device) (o : Outcome Session Fault α) : Reply T :=
  let w' := w.withSession o.state
  match o.result with
  | .ok _ => .drawn w'.update d o.log
  | .error f => .failing w' d o.log f

def commit (w : Workbench T) (d : Device) : Reply T :=
  w.redraw d w.session.commit

/-- Writes the page of the session; the screen does not change. -/
def writePage (w : Workbench T) (d : Device) (m : Device.Mishaps := {}) : Reply T :=
  let o := Snapshot.write w.session d none m
  match o.result with
  | .ok _ => .logging w o.state o.log
  | .error (.fault f) => .failing w o.state o.log f
  | .error e =>
    { Reply.logging w o.state (o.log ++ [⟨.error, e.message⟩]) with warnings := [.exportFailed e.message] }

/-- Detaches the panel of the log and saves the configuration. -/
def close (w : Workbench T) (d : Device) : Reply T :=
  let w' := { w with isAttached := false, isClosed := true }
  let (d', result) := w.config.save d w.configPath
  match result with
  | .ok () => .passing w' d' .close
  | .error (.refused e) => { Reply.passing w' d' .close with log := [⟨.warning, e.message⟩] }
  | .error (.fault f) => .failing w' d' [] f

def focus (w : Workbench T) (id : FieldId) : Workbench T :=
  (w.withSession (w.session.activate (some id))).updateInputs

end Workbench

end Stepper.Desktop
