import Stepper.Machine.Word
import Stepper.Numeral.Limit

/-! The bytes of the stack, first as a plain memory addressed by byte and then as a region of whole words
counted from its bottom. Words are stored with their lowest byte first. -/

namespace Stepper

/-- The value of bytes, lowest first. -/
def valueOfBytes : List UInt8 → Nat
  | [] => 0
  | b :: rest => b.toNat + 256 * valueOfBytes rest

/-- The lowest `size` bytes of a number, lowest first; those of a negative one are its two's complement. -/
def bytesOfValue : Nat → Int → List UInt8
  | 0, _ => []
  | size + 1, v => UInt8.ofNat (v % 256).toNat :: bytesOfValue size (v / 256)

def readBytes (data : List UInt8) (offset size : Nat) : Nat :=
  valueOfBytes ((data.drop offset).take size)

/-- Puts the bytes in the place of those from `offset` on. -/
def writeBytes (data : List UInt8) (offset : Nat) (bytes : List UInt8) : List UInt8 :=
  data.take offset ++ bytes ++ data.drop (offset + bytes.length)

structure AddressOutOfRange where
  address : Int
  bottom : Int
  top : Int
  deriving DecidableEq, Repr

def AddressOutOfRange.message (e : AddressOutOfRange) : Text :=
  "Address " ++ Numeral.shown e.address ++ " outside stack [" ++ Numeral.shown e.bottom ++ ", " ++
    Numeral.shown e.top ++ ")"

inductive StackError where
  | address (cause : AddressOutOfRange)
  | index (index : Int)
  | digits (cause : Numeral.DigitError)
  deriving DecidableEq, Repr

def StackError.message : StackError → Text
  | address cause => cause.message
  | index i => "Stack word index out of range: " ++ Numeral.decimal i
  | digits cause => cause.message

/-- There is no word of an index. The message needs the index in decimal, and it may be too long for that. -/
def StackError.outside (index : Int) : StackError :=
  match Numeral.writeDecimal index with
  | .ok _ => .index index
  | .error cause => .digits cause

structure StackRegion where
  data : List UInt8
  bottom : Int
  top : Int
  deriving DecidableEq, Repr

namespace StackRegion

/-- Whole words that lie within both the bounds and the bytes. -/
def wordCount (s : StackRegion) : Nat :=
  (min (s.top - s.bottom) s.data.length).toNat / Word.bytes

def contains (s : StackRegion) (address : Int) : Bool :=
  s.bottom ≤ address && address < s.top

def indexOf (s : StackRegion) (address : Int) : Except AddressOutOfRange Nat :=
  let index := ((address - s.bottom) / Word.bytes).toNat
  if s.contains address && index < s.wordCount then .ok index
  else .error ⟨address, s.bottom, s.top⟩

def addressOf (s : StackRegion) (index : Int) : Int :=
  s.bottom + index * Word.bytes

/-- A word of the region; zero beyond its end. -/
def wordAtIndex (s : StackRegion) (index : Nat) : Nat :=
  readBytes s.data (index * Word.bytes) Word.bytes

def putWord (s : StackRegion) (index : Nat) (v : Int) : StackRegion :=
  { s with data := writeBytes s.data (index * Word.bytes) (bytesOfValue Word.bytes (Word.wrap v)) }

def checkIndex (s : StackRegion) (index : Int) : Except StackError Nat :=
  if 0 ≤ index ∧ index < s.wordCount then .ok index.toNat else .error (.outside index)

def word (s : StackRegion) (index : Int) : Except StackError Nat := do
  let i ← s.checkIndex index
  pure (s.wordAtIndex i)

def setWord (s : StackRegion) (index v : Int) : Except StackError StackRegion := do
  let i ← s.checkIndex index
  pure (s.putWord i v)

def wordAt (s : StackRegion) (address : Int) : Except AddressOutOfRange Nat := do
  let i ← s.indexOf address
  pure (s.wordAtIndex i)

/-- The index of the word that was written, and the region after it. -/
def writeWordAt (s : StackRegion) (address v : Int) : Except AddressOutOfRange (Nat × StackRegion) := do
  let i ← s.indexOf address
  pure (i, s.putWord i v)

end StackRegion

end Stepper
