import Stepper.Text.Lines

/-! Text in a page: the five characters that mean something to a page are written as character
references. -/

namespace Stepper.Html

def escapeChar : Char → Text
  | '&' => "&amp;"
  | '<' => "&lt;"
  | '>' => "&gt;"
  | '"' => "&quot;"
  | '\'' => "&#x27;"
  | c => [c]

def escape (t : Text) : Text :=
  t.flatMap escapeChar

end Stepper.Html
