import Stepper.Desktop.Screen

/-! How an input field is drawn: a filled frame, the text or the placeholder, and the cursor if the field has
the focus. -/

namespace Stepper.Desktop

structure Rect where
  x : Int
  y : Int
  width : Int
  height : Int
  deriving DecidableEq, Repr

inductive Drawing where
  | fill (area : Rect) (colour : Colour)
  | outline (area : Rect) (pen : Colour)
  | text (area : Rect) (text : Text) (pen : Colour)
  | line (x₁ y₁ x₂ y₂ : Int) (pen : Colour)
  deriving DecidableEq, Repr

/-- The size that an input field asks for. -/
def inputSize : Int × Int := (180, 30)

def textMargin : Int := 5

/-- Draws into an area of the given size; `advance` tells how wide a text is. A hidden field is not drawn. -/
def drawInput (width height : Int) (advance : Text → Int) (f : FieldState) : List Drawing :=
  if f.visible then
    let frame : Rect := ⟨0, 0, width - 1, height - 1⟩
    let inner : Rect := ⟨textMargin, 0, frame.width - 2 * textMargin, frame.height⟩
    let x := textMargin + advance (f.text.take f.cursor)
    let label :=
      if f.text.isEmpty then Drawing.text inner f.id.placeholder .placeholder
      else .text inner f.text .foreground
    let cursor :=
      if f.active then [Drawing.line x textMargin x (frame.height - textMargin) .foreground] else []
    [.fill frame (if f.active then .activeFill else .background),
      .outline frame (if f.active then .activeBorder else .border), label] ++ cursor
  else []

end Stepper.Desktop
