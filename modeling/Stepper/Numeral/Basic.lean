import Stepper.Text.Basic
import Stepper.Unicode.Digit

/-! Written numbers. Digits are most significant first; a negative number has its sign in front of
everything but the `0x` that some texts add. -/

namespace Stepper.Numeral

/-- The value of digits in a base. -/
def ofDigits (base : Nat) (ds : List Nat) : Nat :=
  ds.foldl (fun n d => n * base + d) 0

def hexDigit? (c : Char) : Option Nat :=
  if c.isDigit then some (c.toNat - 48)
  else if 'a' ≤ c && c ≤ 'f' then some (c.toNat - 87)
  else if 'A' ≤ c && c ≤ 'F' then some (c.toNat - 55)
  else none

def isHexDigit (c : Char) : Bool :=
  (hexDigit? c).isSome

def octalDigit? (c : Char) : Option Nat :=
  if '0' ≤ c && c ≤ '7' then some (c.toNat - 48) else none

/-- The digits at the head of a text, up to the first character that is none. -/
def leadingDigits (digit? : Char → Option Nat) : Text → List Nat
  | [] => []
  | c :: rest =>
    match digit? c with
    | some d => d :: leadingDigits digit? rest
    | none => []

def padTo (width : Nat) (digits : Text) : Text :=
  List.replicate (width - digits.length) '0' ++ digits

/-- Writes the absolute value with `digits` and puts the sign in front. -/
def signed (digits : Nat → Text) (v : Int) : Text :=
  if v < 0 then '-' :: digits v.natAbs else digits v.natAbs

def natDecimal (n : Nat) : Text :=
  Nat.toDigits 10 n

def natHex (n : Nat) : Text :=
  Nat.toDigits 16 n

def natHexUpper (n : Nat) : Text :=
  (Nat.toDigits 16 n).map Char.toUpper

def decimal (v : Int) : Text :=
  signed natDecimal v

def hex (v : Int) : Text :=
  signed natHex v

def hexUpper (v : Int) : Text :=
  signed natHexUpper v

/-- Lower-case hexadecimal after `0x`, the form in which numbers are shown. -/
def shown (v : Int) : Text :=
  "0x" ++ hex v

/-- Hexadecimal in a column of at least `width` characters, the sign included. -/
def column (digits : Nat → Text) (width : Nat) (v : Int) : Text :=
  if v < 0 then '-' :: padTo (width - 1) (digits v.natAbs) else padTo width (digits v.natAbs)

end Stepper.Numeral
