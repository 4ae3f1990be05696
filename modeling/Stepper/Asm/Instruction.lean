import Stepper.Asm.Comment
import Stepper.Asm.Operand

/-! Instructions: a mnemonic and operands parted by commas, where commas between brackets part nothing. -/

namespace Stepper.Asm

open Numeral Unicode

structure Instruction where
  text : Text
  mnemonic : Text
  operands : List Operand
  deriving DecidableEq, Repr

inductive ParseCause where
  | emptyInstruction
  | nonContiguous (address expected : Int)
  | duplicateLabel (name : Text)
  deriving DecidableEq, Repr

structure ParseError where
  cause : ParseCause
  lineNo : Int
  text : Text
  deriving DecidableEq, Repr

def ParseError.message (e : ParseError) : Text :=
  match e.cause with
  | .emptyInstruction => "Empty instruction"
  | .nonContiguous address expected =>
    "Non-contiguous address " ++ Numeral.shown address ++ " (expected " ++ Numeral.shown expected ++ ")"
  | .duplicateLabel name => "Duplicate label: " ++ name

/-- Why a text is not read as an instruction: it is refused, or an integer in it has too many digits. -/
inductive ReadError where
  | refused (cause : ParseError)
  | digits (cause : DigitError)
  deriving DecidableEq, Repr

/-- The pieces between the commas outside brackets, always at least one. `depth` counts the brackets that
are open; one that closes nothing is an ordinary character. -/
def splitOutside (depth : Nat) : Text → List Text
  | [] => [[]]
  | c :: rest =>
    let depth' := if c = '[' then depth + 1 else if c = ']' then depth - 1 else depth
    if c = ',' ∧ depth' = 0 then [] :: splitOutside depth' rest
    else match splitOutside depth' rest with
      | [] => [[c]]
      | piece :: pieces => (c :: piece) :: pieces

def splitOperands (t : Text) : List Text :=
  ((splitOutside 0 t).map Text.trim).filter (!·.isEmpty)

/-- The first word and what follows the blanks behind it. -/
def splitWord (t : Text) : Text × Text :=
  (t.takeWhile (!isBlank ·), Text.trimStart (t.dropWhile (!isBlank ·)))

/-- The operands are read from left to right. -/
def Instruction.ofParts (text mnemonic : Text) (operands : List Text) : Except ReadError Instruction :=
  match operands.mapM Operand.read with
  | .ok os => .ok ⟨text, mnemonic, os⟩
  | .error cause => .error (.digits cause)

def Instruction.read (text : Text) (lineNo : Int) : Except ReadError Instruction :=
  match Text.trim (stripComment text) with
  | [] => .error (.refused ⟨.emptyInstruction, lineNo, text⟩)
  | working =>
    let (word, rest) := splitWord working
    ofParts text (upper word) (splitOperands rest)

end Stepper.Asm
