import Stepper.Text.Basic

/-! The toolkit that the window is built from. It is not part of the program: the window only hands texts and colours to
the widgets and reads back what the user typed. What it counts on is what the documentation of the toolkit promises. -/

namespace Stepper.Desktop

inductive Colour where
  | foreground
  | placeholder
  | usedRegister
  | currentLine
  | stackPointer
  | background
  | border
  | activeFill
  | activeBorder
  deriving DecidableEq, Repr

/-- A line of a list. Without a colour it has that of the list. -/
structure ListItem where
  text : Text
  colour : Option Colour
  bold : Bool
  deriving DecidableEq, Repr

/-- An item of a table. -/
structure Cell where
  text : Text
  colour : Option Colour
  tooltip : Option Text
  deriving DecidableEq, Repr

/-- The widgets: lists of lines, tables of cells by rows and columns, labels, and entries that the user can type into. -/
structure Toolkit where
  ItemList : Type
  Table : Type
  Label : Type
  Entry : Type
  emptyList : ItemList
  items : ItemList → List ListItem
  clear : ItemList → ItemList
  addItem : ItemList → ListItem → ItemList
  table : Nat → Nat → Table
  rowCount : Table → Nat
  columnCount : Table → Nat
  cell? : Table → Nat → Nat → Option Cell
  clearContents : Table → Table
  setRowCount : Table → Nat → Table
  setItem : Table → Nat → Nat → Cell → Table
  label : Text → Label
  labelText : Label → Text
  setLabel : Label → Text → Label
  entry : Text → Entry
  entryText : Entry → Text
  setEntry : Entry → Text → Entry

namespace Toolkit

/-- How long the text of an entry may be. A character beyond the first plane counts twice. -/
def entryLimit : Nat := 32767

def entryLength (t : Text) : Nat :=
  t.length + t.countP (0x10000 ≤ ·.toNat)

def FitsEntry (t : Text) : Prop :=
  entryLength t ≤ entryLimit

instance (t : Text) : Decidable (FitsEntry t) :=
  inferInstanceAs (Decidable (_ ≤ _))

/-- What the documentation says of the widgets. Of a text that does not fit an entry, and of a cell that is put where the
table has none, nothing is said. -/
structure Lawful (T : Toolkit) : Prop where
  items_clear : ∀ l, T.items (T.clear l) = []
  items_addItem : ∀ l i, T.items (T.addItem l i) = T.items l ++ [i]
  rowCount_table : ∀ rows columns, T.rowCount (T.table rows columns) = rows
  columnCount_table : ∀ rows columns, T.columnCount (T.table rows columns) = columns
  cell?_outside : ∀ t row column, T.rowCount t ≤ row ∨ T.columnCount t ≤ column → T.cell? t row column = none
  rowCount_clearContents : ∀ t, T.rowCount (T.clearContents t) = T.rowCount t
  columnCount_clearContents : ∀ t, T.columnCount (T.clearContents t) = T.columnCount t
  cell?_clearContents : ∀ t row column, T.cell? (T.clearContents t) row column = none
  rowCount_setRowCount : ∀ t rows, T.rowCount (T.setRowCount t rows) = rows
  columnCount_setRowCount : ∀ t rows, T.columnCount (T.setRowCount t rows) = T.columnCount t
  rowCount_setItem : ∀ t row column c, T.rowCount (T.setItem t row column c) = T.rowCount t
  columnCount_setItem : ∀ t row column c, T.columnCount (T.setItem t row column c) = T.columnCount t
  cell?_setItem : ∀ t row column c row' column', row < T.rowCount t → column < T.columnCount t →
    T.cell? (T.setItem t row column c) row' column' = if (row', column') = (row, column) then some c else T.cell? t row' column'
  labelText_setLabel : ∀ l t, T.labelText (T.setLabel l t) = t
  entryText_entry : ∀ t, FitsEntry t → T.entryText (T.entry t) = t

end Toolkit

end Stepper.Desktop
