import Stepper.Desktop.Workbench
import Stepper.Unicode.Printable

/-! Events of keyboard and mouse. While an input field has the focus it takes every key; otherwise some keys
stand for commands, and what has no meaning here goes on to the toolkit. -/

namespace Stepper.Desktop

inductive Key where
  | space
  | letterR
  | letterL
  | escape
  | edit (key : EditKey)
  | other
  deriving DecidableEq, Repr

inductive MouseButton where
  | left
  | right
  deriving DecidableEq, Repr

inductive Button where
  | setValue
  | step
  | reset
  | load
  | snapshot
  deriving DecidableEq, Repr

/-- A key comes with the text it would type. -/
inductive Event where
  | key (key : Key) (text : Text)
  | tab
  | click (button : Button)
  | field (id : FieldId) (button : MouseButton)
  | mouse
  | close
  | load (request : LoadRequest)
  deriving DecidableEq, Repr

def isTypeable (t : Text) : Bool :=
  !t.isEmpty && t.all Unicode.isPrintable

namespace Workbench

variable {T : Toolkit}

/-- A key for the field that has the focus. -/
def typeKey (w : Workbench T) (d : Device) (key : Key) (t : Text) : Reply T :=
  match key with
  | .edit k => w.redraw d (w.session.press k)
  | _ => .drawn (if isTypeable t then (w.withSession (w.session.typeText t).2).update else w.update) d []

def press (w : Workbench T) (d : Device) (user : DialogInput) (key : Key) (t : Text) : Reply T :=
  if w.hasFocus then w.typeKey d key t
  else match key with
    | .space => w.step d
    | .letterR => w.reset d
    | .letterL => w.askAndLoad d user
    | .escape => w.close d
    | _ => .passing w d .key

/-- The tabulator goes round the input fields once one of them has the focus. -/
def tab (w : Workbench T) (d : Device) : Reply T :=
  if w.hasFocus then
    { Reply.silent (w.withSession (w.session.press .tab).state).updateInputs d with result := .ok (some true) }
  else { Reply.passing w d .focus with result := .ok (some false) }

def click (w : Workbench T) (d : Device) (user : DialogInput) : Button → Reply T
  | .setValue => w.commit d
  | .step => w.step d
  | .reset => w.reset d
  | .load => w.askAndLoad d user
  | .snapshot => w.writePage d

/-- A click beside the fields takes the focus away. -/
def mouse (w : Workbench T) (d : Device) : Reply T :=
  .passing (if w.hasFocus then (w.withSession w.session.releaseFocus).updateInputs else w) d .mouse

/-- `user` is what the user does in a dialog, should one open. -/
def handle (w : Workbench T) (d : Device) (user : DialogInput) : Event → Reply T
  | .key key t => w.press d user key t
  | .tab => w.tab d
  | .click button => w.click d user button
  | .field id .left => .silent (w.focus id) d
  | .field _ .right => .silent w d
  | .mouse => w.mouse d
  | .close => w.close d
  | .load r => w.load d r

end Workbench

end Stepper.Desktop
