import Stepper.Desktop.Toolkit

/-! A toolkit without a screen: its widgets hold what they are given. -/

namespace Stepper.Desktop

/-- A table by row and column. What is beyond its rows and columns does not count. -/
structure Sheet where
  rows : Nat
  columns : Nat
  content : Nat → Nat → Option Cell

namespace Sheet

def cell? (s : Sheet) (row column : Nat) : Option Cell :=
  if row < s.rows ∧ column < s.columns then s.content row column else none

/-- Cuts the table or adds empty rows to it. -/
def setRowCount (s : Sheet) (rows : Nat) : Sheet :=
  { s with rows := rows, content := fun row column => if row < s.rows then s.content row column else none }

def setItem (s : Sheet) (row column : Nat) (c : Cell) : Sheet :=
  { s with content := fun row' column' => if (row', column') = (row, column) then some c else s.content row' column' }

end Sheet

def Toolkit.plain : Toolkit where
  ItemList := List ListItem
  Table := Sheet
  Label := Text
  Entry := Text
  emptyList := []
  items := id
  clear _ := []
  addItem l i := l ++ [i]
  table rows columns := ⟨rows, columns, fun _ _ => none⟩
  rowCount := Sheet.rows
  columnCount := Sheet.columns
  cell? := Sheet.cell?
  clearContents s := { s with content := fun _ _ => none }
  setRowCount := Sheet.setRowCount
  setItem := Sheet.setItem
  label := id
  labelText := id
  setLabel _ t := t
  entry := id
  entryText := id
  setEntry _ t := t

end Stepper.Desktop
