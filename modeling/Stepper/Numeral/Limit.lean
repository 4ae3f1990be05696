import Stepper.Numeral.Basic

/-! How long decimal numbers may be. A longer one is neither read nor written; in the bases of eight and sixteen any
length will do. -/

namespace Stepper.Numeral

/-- The most decimal digits that are read or written at a time. -/
def digitLimit : Nat := 4300

/-- A number has too many digits. Where it is read, they are counted. -/
inductive DigitError where
  | reading (digits : Nat)
  | writing
  deriving DecidableEq, Repr

def DigitError.message (e : DigitError) : Text :=
  let count := match e with
    | reading digits => ": value has " ++ natDecimal digits ++ " digits"
    | writing => []
  "Exceeds the limit (" ++ natDecimal digitLimit ++ " digits) for integer string conversion" ++ count ++
    "; use sys.set_int_max_str_digits() to increase the limit"

/-- The number that decimal digits stand for. -/
def ofDecimalDigits (ds : List Nat) : Except DigitError Nat :=
  if ds.length > digitLimit then .error (.reading ds.length) else .ok (ofDigits 10 ds)

def writeDecimal (v : Int) : Except DigitError Text :=
  if (natDecimal v.natAbs).length > digitLimit then .error .writing else .ok (decimal v)

end Stepper.Numeral
