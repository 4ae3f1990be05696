import Stepper.Files.Device
import Stepper.Json.Basic
import Stepper.Machine.Cpu
import Stepper.Numeral.Limit

/-! Faults: what no command foresees. The program has no message of its own for a fault; it ends the command
that it comes up in. -/

namespace Stepper

/-- The uses of a setting that was left blank: as a path, as the address that others are counted from, as a
word for a register, and in a message. -/
inductive BlankUse where
  | path
  | base
  | word
  | shown
  deriving DecidableEq, Repr

def BlankUse.message : BlankUse → Text
  | path => "expected str, bytes or os.PathLike object, not list"
  | base => "can only concatenate list (not \"int\") to list"
  | word => "unsupported operand type(s) for &: 'list' and 'int'"
  | shown => "%x format: an integer is required, not list"

inductive Fault where
  | nullInPath
  | homeless
  | unlocatable (cause : FileError)
  | undecodable (cause : Utf8Error)
  | unbearable (cause : JsonFault)
  | digits (cause : Numeral.DigitError)
  | leftover (cause : FileError)
  | stackSize (cause : StackSizeError)
  | blank (use : BlankUse)
  deriving DecidableEq, Repr

def Fault.message : Fault → Text
  | nullInPath => "embedded null byte"
  | homeless => "Could not determine home directory."
  | unlocatable cause => cause.message
  | undecodable cause => cause.message
  | unbearable cause => cause.text
  | digits cause => cause.message
  | leftover cause => cause.message
  | stackSize cause => cause.message
  | blank use => use.message

end Stepper
