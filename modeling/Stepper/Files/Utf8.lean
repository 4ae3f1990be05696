import Stepper.Text.Lines
import Stepper.Numeral.Basic

/-! UTF-8. Bytes are read strictly: overlong forms, surrogates and code points beyond the last one are
refused, at the first byte that no encoded text could have there. -/

namespace Stepper

inductive Utf8Reason where
  | startByte
  | continuationByte
  | endOfData
  deriving DecidableEq, Repr

/-- The refused bytes stand from `start` up to `stop`; `first` is the byte at `start`. -/
structure Utf8Error where
  first : UInt8
  start : Nat
  stop : Nat
  reason : Utf8Reason
  deriving DecidableEq, Repr

def Utf8Reason.text : Utf8Reason → Text
  | startByte => "invalid start byte"
  | continuationByte => "invalid continuation byte"
  | endOfData => "unexpected end of data"

def Utf8Error.message (e : Utf8Error) : Text :=
  let place : Text :=
    if e.stop = e.start + 1 then
      "byte 0x" ++ Numeral.padTo 2 (Numeral.natHex e.first.toNat) ++ " in position " ++
        Numeral.natDecimal e.start
    else
      "bytes in position " ++ Numeral.natDecimal e.start ++ "-" ++ Numeral.natDecimal (e.stop - 1)
  "'utf-8' codec can't decode " ++ place ++ ": " ++ e.reason.text

namespace Utf8

def encode (t : Text) : List UInt8 :=
  t.flatMap String.utf8EncodeChar

/-- The number of bytes. -/
def size (t : Text) : Nat :=
  (encode t).length

/-- A character whose first byte was read: how many bytes are owed, the bounds of the next one, and the
bits so far. -/
structure Pending where
  first : UInt8
  start : Nat
  owed : Nat
  low : UInt8
  high : UInt8
  bits : Nat

def lead? (b : UInt8) (start : Nat) : Option Pending :=
  if 0xC2 ≤ b && b ≤ 0xDF then some ⟨b, start, 1, 0x80, 0xBF, b.toNat - 0xC0⟩
  else if b = 0xE0 then some ⟨b, start, 2, 0xA0, 0xBF, 0⟩
  else if b = 0xED then some ⟨b, start, 2, 0x80, 0x9F, 0x0D⟩
  else if 0xE1 ≤ b && b ≤ 0xEF then some ⟨b, start, 2, 0x80, 0xBF, b.toNat - 0xE0⟩
  else if b = 0xF0 then some ⟨b, start, 3, 0x90, 0xBF, 0⟩
  else if b = 0xF4 then some ⟨b, start, 3, 0x80, 0x8F, 4⟩
  else if 0xF1 ≤ b && b ≤ 0xF3 then some ⟨b, start, 3, 0x80, 0xBF, b.toNat - 0xF0⟩
  else none

def decodeFrom (position : Nat) (pending : Option Pending) : List UInt8 → Except Utf8Error Text
  | [] =>
    match pending with
    | none => .ok []
    | some p => .error ⟨p.first, p.start, position, .endOfData⟩
  | b :: rest =>
    match pending with
    | none =>
      if b < 0x80 then (Char.ofNat b.toNat :: ·) <$> decodeFrom (position + 1) none rest
      else match lead? b position with
        | some p => decodeFrom (position + 1) (some p) rest
        | none => .error ⟨b, position, position + 1, .startByte⟩
    | some p =>
      if p.low ≤ b && b ≤ p.high then
        let bits := p.bits * 64 + (b.toNat - 0x80)
        if p.owed ≤ 1 then (Char.ofNat bits :: ·) <$> decodeFrom (position + 1) none rest
        else decodeFrom (position + 1)
          (some { p with owed := p.owed - 1, low := 0x80, high := 0xBF, bits := bits }) rest
      else .error ⟨p.first, p.start, position, .continuationByte⟩

def decode (bytes : List UInt8) : Except Utf8Error Text :=
  decodeFrom 0 none bytes

/-- The text of a file, with line feeds at the ends of its lines. -/
def readText (bytes : List UInt8) : Except Utf8Error Text :=
  Text.withLineFeeds <$> decode bytes

end Utf8

end Stepper
