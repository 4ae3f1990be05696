import Stepper.Input.Editor

/-! The three input fields and the focus among them. Each field knows whether it has the focus, and the set
knows which field does; every move of the focus goes through `activate`, which keeps the two together. -/

namespace Stepper

inductive FieldId where
  | register
  | memory
  | value
  deriving DecidableEq, Repr

namespace FieldId

/-- The order in which the focus goes round. -/
def all : List FieldId := [register, memory, value]

def next : FieldId → FieldId
  | register => memory
  | memory => value
  | value => register

def label : FieldId → Text
  | register => "Register"
  | memory => "Memory Address"
  | value => "Value"

def placeholder : FieldId → Text
  | register => "0-32"
  | memory => "0xAddress"
  | value => "Value"

end FieldId

inductive FieldRole where
  | registerIndex
  | memoryAddress
  | rawValue
  deriving DecidableEq, Repr

def FieldId.role : FieldId → FieldRole
  | register => .registerIndex
  | memory => .memoryAddress
  | value => .rawValue

structure Field where
  editor : Editor
  active : Bool
  visible : Bool
  deriving DecidableEq, Repr

/-- What a field shows. -/
structure FieldState where
  id : FieldId
  text : Text
  cursor : Nat
  active : Bool
  visible : Bool
  deriving DecidableEq, Repr

structure Fields where
  register : Field
  memory : Field
  value : Field
  active : Option FieldId
  deriving DecidableEq, Repr

namespace Fields

def ofCapacity (capacity : Nat) : Fields :=
  let field : Field := ⟨Editor.ofCapacity capacity, false, false⟩
  ⟨field, field, field, none⟩

def create (capacity : Int) : Except EditorError Fields := do
  let e ← Editor.create capacity
  pure (ofCapacity e.capacity)

def get (fs : Fields) : FieldId → Field
  | .register => fs.register
  | .memory => fs.memory
  | .value => fs.value

def text (fs : Fields) (id : FieldId) : Text :=
  (fs.get id).editor.text

def update (fs : Fields) (f : Field → Field) : FieldId → Fields
  | .register => { fs with register := f fs.register }
  | .memory => { fs with memory := f fs.memory }
  | .value => { fs with value := f fs.value }

def updateAll (fs : Fields) (f : Field → Field) : Fields :=
  { fs with register := f fs.register, memory := f fs.memory, value := f fs.value }

def setEditor (fs : Fields) (id : FieldId) (e : Editor) : Fields :=
  fs.update (fun field => { field with editor := e }) id

/-- Moves the focus to a field, or away from all of them. -/
def activate (fs : Fields) (target : Option FieldId) : Fields :=
  let left := match fs.active with
    | some id => fs.update (fun field => { field with active := false }) id
    | none => fs
  let moved := { left with active := target }
  match target with
  | some id => moved.update (fun field => { field with active := true }) id
  | none => moved

def release (fs : Fields) : Fields :=
  fs.activate none

def cycleTarget (fs : Fields) : FieldId :=
  match fs.active with
  | some id => id.next
  | none => .register

def cycle (fs : Fields) : Fields :=
  fs.activate (some fs.cycleTarget)

/-- Types one character into the active field. -/
def typeSingle (fs : Fields) (t : Text) : Except EditorError (Bool × Fields) :=
  match fs.active with
  | none => .ok (false, fs)
  | some id => do
    let (done, e) ← (fs.get id).editor.insertSingle t
    pure (done, fs.setEditor id e)

def typeText (fs : Fields) (t : Text) : Nat × Fields :=
  match fs.active with
  | none => (0, fs)
  | some id =>
    let (n, e) := (fs.get id).editor.insertText t
    (n, fs.setEditor id e)

/-- The tab key moves the focus on; other keys go to the active field. -/
def press (fs : Fields) (key : EditKey) : Bool × Fields :=
  match fs.active with
  | none => (false, fs)
  | some id =>
    if key = .tab then (true, fs.cycle)
    else
      let (taken, e) := (fs.get id).editor.press key
      (taken, fs.setEditor id e)

def clearAll (fs : Fields) : Fields :=
  fs.updateAll fun field => { field with editor := field.editor.clear }

def showAll (fs : Fields) : Fields :=
  fs.updateAll fun field => { field with visible := true }

def setText (fs : Fields) (id : FieldId) (t : Text) : Fields :=
  fs.setEditor id ((fs.get id).editor.setText t)

def state (fs : Fields) (id : FieldId) : FieldState :=
  let field := fs.get id
  ⟨id, field.editor.text, field.editor.cursor, field.active, field.visible⟩

def states (fs : Fields) : List FieldState :=
  FieldId.all.map fs.state

end Fields

end Stepper
