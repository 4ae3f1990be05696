import Stepper.Machine.Register
import Stepper.Numeral.Limit
import Stepper.Unicode.Case

/-! Operands: how each kind is spelled and what it stands for. Register names and label names are read in
any letter case. An integer may have too many digits to be read at all. -/

namespace Stepper.Asm

open Numeral Unicode

inductive OperandKind where
  | reg (r : Reg)
  | zero
  | imm (value : Int)
  | mem (base : Reg) (offset : Int)
  | label (name : Text)
  | unsupported
  deriving DecidableEq, Repr

structure Operand where
  kind : OperandKind
  text : Text
  deriving DecidableEq, Repr

/-- The program counter has no name that an operand could use. -/
def registerNames : List (Text × Reg) :=
  (Reg.all.take 32).map (fun r => (r.name, r)) ++ [(("lr" : Text), Reg.link), (("fp" : Text), Reg.fp)]

def registerNamed? (name : Text) : Option Reg :=
  registerNames.lookup name

def zeroNames : List Text := ["xzr", "wzr"]

def isNameStart (c : Char) : Bool :=
  c.isAlpha || c == '_' || c == '.' || c == '$'

def isNameChar (c : Char) : Bool :=
  isNameStart c || c.isDigit

def isName : Text → Bool
  | [] => false
  | c :: rest => isNameStart c && rest.all isNameChar

/-- The digits of an integer, and whether a minus stands in front of them. -/
structure Digits where
  negative : Bool
  base : Nat
  digits : List Nat
  deriving DecidableEq, Repr

/-- The integer that is written. Only decimal digits can be too many. -/
def Digits.value (d : Digits) : Except DigitError Int :=
  (if d.base = 10 then ofDecimalDigits d.digits else .ok (ofDigits d.base d.digits)).map fun n : Nat =>
    if d.negative then -(n : Int) else n

/-- Hexadecimal after `0x`, else decimal in the digits of any script. -/
def magnitude? (negative : Bool) : Text → Option Digits
  | '0' :: 'x' :: d :: rest =>
    if (d :: rest).all isHexDigit then some ⟨negative, 16, leadingDigits hexDigit? (d :: rest)⟩ else none
  | [] => none
  | t => if t.all isDigit then some ⟨negative, 10, leadingDigits digit? t⟩ else none

def negatable? : Text → Option Digits
  | '-' :: rest => magnitude? true rest
  | t => magnitude? false t

/-- The digits after a number sign and a minus, both of them optional. -/
def immediateDigits? (t : Text) : Option Digits :=
  match Text.trim t with
  | '#' :: rest => negatable? rest
  | rest => negatable? rest

def immediate? (t : Text) : Except DigitError (Option Int) :=
  match immediateDigits? t with
  | some d => d.value.map some
  | none => .ok none

/-- What stands between the brackets that open and close a text. -/
def bracketed? : Text → Option Text
  | '[' :: rest => if rest.getLast? = some ']' then some rest.dropLast else none
  | _ => none

/-- A base register, alone or with an offset. -/
def memory? (inside : Text) : Except DigitError (Option OperandKind) :=
  match (Text.splitOn ',' inside).map Text.trim with
  | [base] => .ok ((registerNamed? (lower base)).map fun r => .mem r 0)
  | [base, offset] =>
    match registerNamed? (lower base) with
    | some r => (immediate? offset).map fun v => v.map (.mem r)
    | none => .ok none
  | _ => .ok none

def OperandKind.read (raw : Text) : Except DigitError OperandKind :=
  let name := lower raw
  match registerNamed? name with
  | some r => .ok (.reg r)
  | none =>
    if zeroNames.contains name then .ok .zero
    else match bracketed? raw with
      | some inside => (memory? inside).map fun k => k.getD .unsupported
      | none => (immediate? raw).map fun
        | some v => .imm v
        | none => if isName raw then .label name else .unsupported

def Operand.read (t : Text) : Except DigitError Operand :=
  let raw := Text.trim t
  (OperandKind.read raw).map fun k => ⟨k, raw⟩

end Stepper.Asm
