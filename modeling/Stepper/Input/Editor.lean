import Stepper.Numeral.Limit
import Stepper.Text.Quoted

/-! A line of text with a cursor. It holds one character less than its capacity, which counts a slot for the
terminator. -/

namespace Stepper

inductive EditKey where
  | backspace
  | delete
  | left
  | right
  | home
  | lineEnd
  | tab
  | enter
  deriving DecidableEq, Repr

inductive EditorError where
  | capacityTooSmall
  | notOneCharacter (text : Text)
  deriving DecidableEq, Repr

def EditorError.message : EditorError → Text
  | capacityTooSmall => "capacity must be at least 1"
  | notOneCharacter text => "Expected a single character, got " ++ Text.quote text

structure Editor where
  capacity : Nat
  text : Text
  cursor : Nat
  deriving DecidableEq, Repr

namespace Editor

def defaultCapacity : Nat := 20

def ofCapacity (capacity : Nat) : Editor :=
  ⟨capacity, [], 0⟩

def create (capacity : Int) : Except EditorError Editor :=
  if capacity < 1 then .error .capacityTooSmall else .ok (ofCapacity capacity.toNat)

def length (e : Editor) : Nat :=
  e.text.length

def maxLength (e : Editor) : Nat :=
  e.capacity - 1

def isEmpty (e : Editor) : Bool :=
  e.text.isEmpty

/-- A full line refuses the character. -/
def insert (e : Editor) (c : Char) : Bool × Editor :=
  if e.length ≥ e.maxLength then (false, e)
  else (true, { e with text := e.text.insertIdx e.cursor c, cursor := e.cursor + 1 })

/-- A typed text stands for a character only if it is one. -/
def insertSingle (e : Editor) : Text → Except EditorError (Bool × Editor)
  | [c] => .ok (e.insert c)
  | t => .error (.notOneCharacter t)

/-- Stops at the first character that is refused, and counts those that were not. -/
def insertText (e : Editor) : Text → Nat × Editor
  | [] => (0, e)
  | c :: rest =>
    match e.insert c with
    | (true, e') =>
      let (n, e'') := e'.insertText rest
      (n + 1, e'')
    | (false, _) => (0, e)

def deleteBefore (e : Editor) : Bool × Editor :=
  if e.cursor = 0 then (false, e)
  else (true, { e with text := e.text.eraseIdx (e.cursor - 1), cursor := e.cursor - 1 })

def deleteAt (e : Editor) : Bool × Editor :=
  if e.cursor ≥ e.length then (false, e)
  else (true, { e with text := e.text.eraseIdx e.cursor })

def moveLeft (e : Editor) : Editor :=
  { e with cursor := e.cursor - 1 }

def moveRight (e : Editor) : Editor :=
  if e.cursor < e.length then { e with cursor := e.cursor + 1 } else e

def moveHome (e : Editor) : Editor :=
  { e with cursor := 0 }

def moveEnd (e : Editor) : Editor :=
  { e with cursor := e.length }

def clear (e : Editor) : Editor :=
  { e with text := [], cursor := 0 }

/-- Replaces the line, cut to what fits, and puts the cursor behind it. -/
def setText (e : Editor) (t : Text) : Editor :=
  let kept := t.take e.maxLength
  { e with text := kept, cursor := kept.length }

/-- An editing key, or false and no change for a key that is none of the editor's. -/
def press (e : Editor) : EditKey → Bool × Editor
  | .backspace => (true, e.deleteBefore.2)
  | .delete => (true, e.deleteAt.2)
  | .left => (true, e.moveLeft)
  | .right => (true, e.moveRight)
  | .home => (true, e.moveHome)
  | .lineEnd => (true, e.moveEnd)
  | .tab => (false, e)
  | .enter => (false, e)

/-- The line and its counts, as far as they can be written. -/
def description (e : Editor) : Except Numeral.DigitError Text := do
  let cursor ← Numeral.writeDecimal e.cursor
  let capacity ← Numeral.writeDecimal e.capacity
  pure ("TextFieldEditor(text=" ++ Text.quote e.text ++ ", cursor=" ++ cursor ++ ", capacity=" ++ capacity ++ ")")

end Editor

end Stepper
