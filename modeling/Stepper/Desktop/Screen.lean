import Stepper.Desktop.Toolkit
import Stepper.Fault
import Stepper.Session.Views

/-! What the window shows. The window brings the parts up to date one by one, so that what is shown may be older than the
session. The lists are drawn anew; the tables stay, and the items are put over those that were there before. -/

namespace Stepper.Desktop

inductive RunState where
  | notLoaded
  | ready
  | paused
  | halted
  | error
  deriving DecidableEq, Repr

def RunState.label : RunState → Text
  | notLoaded => "Not loaded"
  | ready => "Ready"
  | paused => "Paused"
  | halted => "Halted"
  | error => "Error"

/-- The parts of the window that change. -/
structure Screen (T : Toolkit) where
  title : Text
  state : RunState
  stateLabel : T.Label
  pcLabel : T.Label
  code : T.ItemList
  registers : T.Table
  stack : T.Table
  inputs : List FieldState

variable {T : Toolkit}

/-- An item with the row and the column that it is for. -/
abbrev PlacedCell := (Nat × Nat) × Cell

def putAll (T : Toolkit) (t : T.Table) (items : List PlacedCell) : T.Table :=
  items.foldl (fun t item => T.setItem t item.1.1 item.1.2 item.2) t

/-! ### Code -/

def ListItem.ofLine (l : CodeLine) : ListItem :=
  ⟨Numeral.column Numeral.natHexUpper 4 l.address ++ ": " ++ l.text,
    if l.current then some .currentLine else none, l.current⟩

def codeItems (s : Session) : List ListItem :=
  if s.initialized then s.codeInView.map ListItem.ofLine else [⟨"No code loaded", none, false⟩]

def drawCode (T : Toolkit) (l : T.ItemList) (s : Session) : T.ItemList :=
  (codeItems s).foldl T.addItem (T.clear l)

/-! ### Registers, two of them in a row -/

def registerRowCount : Nat := 17

def registerHeaders : List Text := ["Reg", "Value", "Reg", "Value"]

/-- The tooltip has the value in decimal, as far as that can be written. -/
def registerItems (r : RegisterRow) : Except Numeral.DigitError (List PlacedCell) := do
  let row := r.register.val / 2
  let column := 2 * (r.register.val % 2)
  let colour := if r.used then some Colour.usedRegister else none
  let tooltip ← Numeral.writeDecimal r.value
  pure [((row, column), ⟨r.register.name, colour, none⟩),
    ((row, column + 1), ⟨Numeral.shown r.value, colour, some tooltip⟩)]

/-- Puts register by register, up to one that cannot be written. -/
def putRegisters (T : Toolkit) (t : T.Table) : List RegisterRow → T.Table × Except Numeral.DigitError Unit
  | [] => (t, .ok ())
  | r :: rest =>
    match registerItems r with
    | .error cause => (t, .error cause)
    | .ok items => putRegisters T (putAll T t items) rest

def drawRegisters (T : Toolkit) (t : T.Table) (s : Session) : T.Table × Except Numeral.DigitError Unit :=
  match s.registerTable with
  | [] => (T.setItem (T.clearContents t) 0 0 ⟨"Not initialized", none, none⟩, .ok ())
  | rows => putRegisters T (T.clearContents t) rows

/-! ### Stack -/

def stackHeaders : List Text := ["Address", "Value"]

/-- The word that the stack pointer points into stands out. -/
def stackItems (sp : Int) (r : StackRow) (row : Nat) : List PlacedCell :=
  let colour := if r.address ≤ sp ∧ sp < r.address + Word.bytes then some .stackPointer else none
  [((row, 0), ⟨Numeral.shown r.address, colour, none⟩), ((row, 1), ⟨Numeral.shown r.value, colour, none⟩)]

def drawStack (T : Toolkit) (t : T.Table) (s : Session) : T.Table :=
  match s.stackRows with
  | [] => putAll T (T.setRowCount t 1) [((0, 0), ⟨"No memory to display", none, none⟩), ((0, 1), ⟨[], none, none⟩)]
  | rows =>
    putAll T (T.setRowCount t rows.length)
      (rows.zipIdx.flatMap fun (r, row) => stackItems (s.machine.cpu.get .sp) r row)

/-! ### Status and title -/

def counterLabel (s : Session) : Text :=
  if s.initialized then "PC: " ++ Numeral.shown s.pc else "PC: -"

def plainTitle : Text := "Assembly Visualizer"

def titleFor (p : Path) : Text :=
  plainTitle ++ " - " ++ p.name

namespace Screen

def updateInputs (v : Screen T) (s : Session) : Screen T :=
  { v with inputs := s.fields.states }

def updateStatus (v : Screen T) (s : Session) : Screen T :=
  { v with stateLabel := T.setLabel v.stateLabel v.state.label, pcLabel := T.setLabel v.pcLabel (counterLabel s) }

def setState (v : Screen T) (s : Session) (state : RunState) : Screen T :=
  updateStatus { v with state := state } s

/-- Everything but the title, one part after the other, and whether all of it could be drawn. -/
def update (v : Screen T) (s : Session) : Screen T × Except Fault Unit :=
  let (registers, result) := drawRegisters T v.registers s
  let v' := { v with code := drawCode T v.code s, registers := registers }
  match result with
  | .error cause => (v', .error (.digits cause))
  | .ok () => ((updateInputs { v' with stack := drawStack T v.stack s } s).updateStatus s, .ok ())

/-- Before anything is drawn: the table of the registers has all its cells, and the one of the stack has no rows. -/
def blank (T : Toolkit) : Screen T :=
  ⟨plainTitle, .notLoaded, T.label RunState.notLoaded.label, T.label "PC: -", T.emptyList,
    T.table registerRowCount registerHeaders.length, T.table 0 stackHeaders.length, []⟩

end Screen

end Stepper.Desktop
