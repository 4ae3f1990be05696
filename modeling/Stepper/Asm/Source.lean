import Stepper.Asm.Listing
import Stepper.Unicode.Word

/-! Plain assembly source and the listing it is turned into. Directives are dropped, labels become the
addresses of the slots behind them, and a few spellings of another dialect are brought to the one that
runs. -/

namespace Stepper.Asm

open Numeral Unicode

/-- The labels of a source with the number of instructions in front of each, and the instructions. -/
structure Source where
  labels : List (Text × Nat)
  instructions : List Text
  deriving DecidableEq, Repr

namespace Source

/-- The source without block comments, line by line without line comments and outer blanks. -/
def cleanLines (source : Text) : List Text :=
  (Text.lines (dropBlocks source)).map fun line => Text.trim (stripComment line)

/-- A name that is there already keeps its place and takes the new value. -/
def assign {α : Type} (name : Text) (value : α) : List (Text × α) → List (Text × α)
  | [] => [(name, value)]
  | (n, v) :: rest => if n = name then (n, value) :: rest else (n, v) :: assign name value rest

def isDirective (line : Text) : Bool :=
  line.head? == some '.'

def addLine (s : Source) (line : Text) : Source :=
  if line.isEmpty || isDirective line then s
  else match labelled? line with
    | none => { s with instructions := s.instructions ++ [line] }
    | some (name, rest) =>
      { labels := assign (lower name) s.instructions.length s.labels
        instructions := if rest.isEmpty then s.instructions else s.instructions ++ [rest] }

def read (source : Text) : Source :=
  (cleanLines source).foldl addLine ⟨[], []⟩

/-- No blanks behind commas. -/
def tightenCommas : Text → Text
  | [] => []
  | ',' :: rest => ',' :: tightenCommas (Text.trimStart rest)
  | c :: rest => c :: tightenCommas rest
termination_by t => t.length
decreasing_by
  · simp only [List.length_cons, Text.trimStart]
    have := (List.dropWhile_sublist isBlank (l := rest)).length_le
    omega
  · simp

/-- `r` and digits become `x` and digits where they stand as a word. `inWord` tells whether a word character
comes before the text. -/
def renameRegisters (inWord : Bool) : Text → Text
  | [] => []
  | c :: rest =>
    let digits := rest.takeWhile isDigit
    let behind := rest.drop digits.length
    let wordEnds := match behind with
      | [] => true
      | d :: _ => !isWord d
    let renamed := c = 'r' && !inWord && !digits.isEmpty && wordEnds
    (if renamed then 'x' else c) :: renameRegisters (isWord c) rest

/-- The spelling of a move that loads an immediate is an addition to the zero register. -/
def moveImmediate? (line : Text) : Option Text :=
  match line with
  | 'm' :: 'o' :: 'v' :: ' ' :: operands =>
    let inTarget := fun c => !(isBlank c || c == ',')
    let target := operands.takeWhile inTarget
    match target, operands.dropWhile inTarget with
    | _ :: _, ',' :: '#' :: value =>
      if (negatable? value).isSome then some ("add " ++ target ++ ",xzr,#" ++ value) else none
    | _, _ => none
  | _ => none

def normalize (line : Text) : Text :=
  let spelled := renameRegisters false (lower (tightenCommas (Text.squeeze line)))
  let known : Text := if "swi".toList.isPrefixOf spelled then "nop" else spelled
  (moveImmediate? known).getD known

/-- A character that a label name may run into. -/
def joinsName (c : Char) : Bool :=
  isWord c || c == '.' || c == '$'

def startsBare (before : Option Char) : Bool :=
  match before with
  | some c => !(joinsName c || c == '#')
  | none => true

def endsBare (behind : Text) : Bool :=
  match behind with
  | c :: _ => !joinsName c
  | [] => true

/-- Puts `value` in the place of every occurrence of `name` that stands on its own. `before` is the character
in front of the text, and `skip` counts the characters of an occurrence that are still to be passed over. -/
def replaceName (name value : Text) (before : Option Char) (skip : Nat) : Text → Text
  | [] => []
  | c :: rest =>
    match skip with
    | k + 1 => replaceName name value (some c) k rest
    | 0 =>
      if startsBare before && name.isPrefixOf (c :: rest) && endsBare ((c :: rest).drop name.length) then
        value ++ replaceName name value (some c) (name.length - 1) rest
      else c :: replaceName name value (some c) 0 rest

def resolve (base : Int) (labels : List (Text × Nat)) (operands : Text) : Text :=
  labels.foldl
    (fun t l => replaceName l.1 (shown (base + l.2 * instructionSize)) none 0 t) operands

/-- The instruction column for a line of the source. -/
def instructionText (base : Int) (labels : List (Text × Nat)) (line : Text) : Text :=
  let normal := normalize line
  let mnemonic := normal.takeWhile (· != ' ')
  let operands := resolve base labels ((normal.dropWhile (· != ' ')).drop 1)
  if operands.isEmpty then mnemonic else mnemonic ++ ' ' :: operands

/-- Columns of address, empty machine code and instruction. -/
def listingLine (base : Int) (labels : List (Text × Nat)) (index : Nat) (line : Text) : Text :=
  column natHex 6 (base + index * instructionSize) ++ ": 00000000   " ++ instructionText base labels line

def listingLines (base : Int) (s : Source) : List Text :=
  s.instructions.mapIdx (listingLine base s.labels)

end Source

def defaultBase : Int := 0x400000

/-- The listing of a plain source whose first instruction is at `base`. -/
def prepare (source : Text) (base : Int) : Text :=
  Text.unlines (Source.listingLines base (Source.read source))

/-- A plain source with anything in it is counted from its base. -/
def takesBase (text : Text) : Bool :=
  !isAddressListing text && Source.read text != ⟨[], []⟩

end Stepper.Asm
