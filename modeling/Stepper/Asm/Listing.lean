import Stepper.Asm.Instruction
import Stepper.Text.Lines

/-! Listings: the lines of a program with the address of the first one and the labels in front of them. A
line of a listing file has an address column and a column of machine code in front of its instruction; a
line without them takes the next slot. -/

namespace Stepper.Asm

open Numeral Unicode

def instructionSize : Nat := 4

structure Listing where
  codeStart : Option Int
  lines : List Text
  /-- Each name in lower case with the index of the line it stands before. A listing that was not read from a
  text may have labels anywhere. -/
  labels : List (Text × Int)
  deriving DecidableEq, Repr

def Listing.empty : Listing := ⟨none, [], []⟩

/-- The address of a label, once the listing has one. -/
def Listing.labelAddress? (l : Listing) (name : Text) : Option Int := do
  let index ← l.labels.lookup (lower name)
  let start ← l.codeStart
  pure (start + index * instructionSize)

/-- The address column and the instruction, for a trimmed line that has both columns. -/
def addressColumns? (line : Text) : Option (Nat × Text) :=
  let digits := line.takeWhile isHexDigit
  match digits, line.dropWhile isHexDigit with
  | _ :: _, ':' :: blank :: rest =>
    let code := Text.trimStart rest
    let behind := code.drop 8
    let instruction := Text.trimStart behind
    if isBlank blank && code.length ≥ 8 && (code.take 8).all isHexDigit && instruction.length < behind.length
        && !instruction.isEmpty then
      some (ofDigits 16 (leadingDigits hexDigit? digits), instruction)
    else none
  | _, _ => none

/-- The name before a colon and what follows it, for a trimmed line. -/
def labelled? (line : Text) : Option (Text × Text) :=
  match line with
  | [] => none
  | c :: rest =>
    if isNameStart c then
      match Text.trimStart (rest.dropWhile isNameChar) with
      | ':' :: behind => some (c :: rest.takeWhile isNameChar, Text.trim behind)
      | _ => none
    else none

/-- The kinds of lines in a listing file. -/
inductive Line where
  | blank
  | addressed (address : Nat) (instruction : Text)
  | labelled (name rest : Text)
  | plain (instruction : Text)
  deriving DecidableEq, Repr

def Line.read (raw : Text) : Line :=
  match Text.trim (stripComment raw) with
  | [] => .blank
  | line =>
    match addressColumns? line with
    | some (address, instruction) => .addressed address instruction
    | none =>
      match labelled? line with
      | some (name, rest) => .labelled (lower name) rest
      | none => .plain line

def Line.isAddressed : Line → Bool
  | addressed _ _ => true
  | _ => false

/-- A text with an address column anywhere is a listing, any other is plain source. -/
def isAddressListing (text : Text) : Bool :=
  (Text.lines text).any fun line => (Line.read line).isAddressed

namespace Listing

def nextAddress (start : Int) (l : Listing) : Int :=
  start + l.lines.length * instructionSize

/-- Appends an instruction with single spaces between its words. -/
def push (l : Listing) (instruction : Text) : Listing :=
  { l with lines := l.lines ++ [Text.unwords (Text.words instruction)] }

/-- Places one line behind the lines so far. The first line of the program may set the address of the code;
afterwards an address column has to agree with it. -/
def place (l : Listing) (lineNo : Nat) (raw : Text) : Except ParseError Listing :=
  match Line.read raw with
  | .blank => .ok l
  | .plain instruction => .ok (l.push instruction)
  | .addressed address instruction =>
    let l' := if l.codeStart.isNone && l.lines.isEmpty then { l with codeStart := some (address : Int) } else l
    match l'.codeStart with
    | none => .ok (l'.push instruction)
    | some start =>
      if (address : Int) = Listing.nextAddress start l' then .ok (l'.push instruction)
      else .error ⟨.nonContiguous address (Listing.nextAddress start l'), lineNo, raw⟩
  | .labelled name rest =>
    if (l.labels.lookup name).isSome then .error ⟨.duplicateLabel name, lineNo, raw⟩
    else
      let l' := { l with labels := l.labels ++ [(name, (l.lines.length : Int))] }
      .ok (if rest.isEmpty then l' else l'.push rest)

def placeAll (l : Listing) (lineNo : Nat) : List Text → Except ParseError Listing
  | [] => .ok l
  | raw :: rest => do
    let l' ← l.place lineNo raw
    l'.placeAll (lineNo + 1) rest

def read (text : Text) : Except ParseError Listing :=
  empty.placeAll 1 (Text.lines text)

end Listing

end Stepper.Asm
