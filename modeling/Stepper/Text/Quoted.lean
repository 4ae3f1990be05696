import Stepper.Numeral.Basic
import Stepper.Unicode.Printable

/-! Quoted text, as messages show it. Single quotes stand around the text unless it holds one and no double
quote; the quote in use, the backslash and everything that is not printable are escaped. -/

namespace Stepper.Text

open Numeral Unicode

def quoteMark (t : Text) : Char :=
  if t.contains '\'' && !t.contains '"' then '"' else '\''

def quoteChar (mark c : Char) : Text :=
  if c = mark || c = '\\' then ['\\', c]
  else if c = '\n' then "\\n"
  else if c = '\r' then "\\r"
  else if c = '\t' then "\\t"
  else if isPrintable c then [c]
  else if c.toNat < 0x100 then "\\x" ++ padTo 2 (natHex c.toNat)
  else if c.toNat < 0x10000 then "\\u" ++ padTo 4 (natHex c.toNat)
  else "\\U" ++ padTo 8 (natHex c.toNat)

def quote (t : Text) : Text :=
  quoteMark t :: t.flatMap (quoteChar (quoteMark t)) ++ [quoteMark t]

end Stepper.Text
