import Stepper.Machine.Word
import Stepper.Numeral.Limit

/-! Reading of the numbers that a user types into a field. The longest readable head of the text counts,
what follows is ignored, and a text without a number reads as zero. Only decimal numbers can be too long. -/

namespace Stepper.Numeral

open Unicode

/-- Whether a minus was taken off, and the rest. -/
def splitSign : Text → Bool × Text
  | '+' :: rest => (false, rest)
  | '-' :: rest => (true, rest)
  | t => (false, t)

def readDecimal (t : Text) : Except DigitError Int :=
  let (negative, rest) := splitSign (Text.trimStart t)
  (ofDecimalDigits (leadingDigits digit? rest)).map fun n : Nat => if negative then -(n : Int) else n

/-- Hexadecimal after `0x` and a digit, octal after `0`, decimal from any other digit. -/
def readMagnitude : Text → Except DigitError Nat
  | '0' :: x :: d :: rest =>
    if (x = 'x' || x = 'X') && isHexDigit d then .ok (ofDigits 16 (leadingDigits hexDigit? (d :: rest)))
    else .ok (ofDigits 8 (leadingDigits octalDigit? (x :: d :: rest)))
  | '0' :: rest => .ok (ofDigits 8 (leadingDigits octalDigit? rest))
  | c :: rest =>
    if '1' ≤ c && c ≤ '9' then ofDecimalDigits (leadingDigits digit? (c :: rest)) else .ok 0
  | [] => .ok 0

/-- A word: too large a magnitude becomes the greatest word, whatever its sign, and any other negative
number wraps. -/
def readWord (t : Text) : Except DigitError Int :=
  let (negative, rest) := splitSign (Text.trimStart t)
  (readMagnitude rest).map fun n : Nat =>
    if n ≥ Word.limit then Word.limit - 1
    else if negative then Word.wrap (-n)
    else n

end Stepper.Numeral
