import Stepper.Numeral.Limit
import Stepper.Text.Quoted
import Stepper.Unicode.Case

/-! Reading of the numbers in a configuration and on the command line. The whole trimmed text has to be a
number: hexadecimal after `0x`, else decimal with an optional sign. One underscore may stand between two
digits, and one after `0x`. -/

namespace Stepper.Numeral

open Unicode

inductive NumeralError where
  | malformed (base : Nat) (text : Text)
  | negative (text : Text)
  | digits (cause : DigitError)
  deriving DecidableEq, Repr

/-- The refused text is quoted, up to 200 characters of it. -/
def NumeralError.message : NumeralError → Text
  | malformed base text =>
    "invalid literal for int() with base " ++ natDecimal base ++ ": " ++ (Text.quote text).take 200
  | negative text => "address must not be negative: " ++ Text.quote text
  | digits cause => cause.message

/-- A digit of any script in the decimal range, or a letter of the base. -/
def strictDigit? (base : Nat) (c : Char) : Option Nat :=
  match digit? c with
  | some d => some d
  | none => if base = 16 then hexDigit? c else none

/-- All of the text as digits; an underscore has a digit on both sides. -/
def strictDigits? (base : Nat) : Text → Option (List Nat)
  | [] => none
  | [c] => (strictDigit? base c).map ([·])
  | c :: '_' :: rest => do
    let d ← strictDigit? base c
    let ds ← strictDigits? base rest
    pure (d :: ds)
  | c :: rest => do
    let d ← strictDigit? base c
    let ds ← strictDigits? base rest
    pure (d :: ds)

/-- The decimal digits at the head of a text, if every underscore that follows them stands between two. -/
def headDigits? (t : Text) : Option (List Nat) :=
  strictDigits? 10 (t.takeWhile fun c => c == '_' || isDigit c)

def hasHexMark : Text → Bool
  | '0' :: x :: _ => x = 'x' || x = 'X'
  | _ => false

def readStrict (t : Text) : Except NumeralError Int :=
  let raw := Text.trim t
  if hasHexMark raw then
    let digits := match raw.drop 2 with
      | '_' :: rest => rest
      | rest => rest
    match strictDigits? 16 digits with
    | some ds => .ok (ofDigits 16 ds)
    | none => .error (.malformed 16 raw)
  else
    let (negative, digits) := match raw with
      | '+' :: rest => (false, rest)
      | '-' :: rest => (true, rest)
      | rest => (false, rest)
    -- digits are counted before anything behind them is looked at
    match ofDecimalDigits ((headDigits? digits).getD []), strictDigits? 10 digits with
    | .error cause, _ => .error (.digits cause)
    | .ok _, some ds => .ok (if negative then -(ofDigits 10 ds) else ofDigits 10 ds)
    | .ok _, none => .error (.malformed 10 raw)

/-- An address: a number that is not negative. -/
def readAddress (t : Text) : Except NumeralError Nat := do
  match (← readStrict t) with
  | .ofNat n => pure n
  | .negSucc _ => throw (.negative t)

end Stepper.Numeral
