import Stepper.Numeral.Limit

/-! JSON text as tokens with their positions. Tokens need no context: a malformed string is a token of its
own that carries its fault, and every other character that starts no token is a stray one. -/

namespace Stepper

inductive JsonFault where
  | value
  | propertyName
  | colon
  | comma
  | extraData
  | byteOrderMark
  | unterminatedString
  | controlCharacter
  | escape
  | unicodeEscape
  /-- Half of a pair of escapes. A text of characters cannot hold it, so that nothing is said of what follows. -/
  | loneSurrogate
  | deepArray
  | deepObject
  | manyDigits (count : Nat)
  deriving DecidableEq, Repr

def JsonFault.text : JsonFault → Text
  | value => "Expecting value"
  | propertyName => "Expecting property name enclosed in double quotes"
  | colon => "Expecting ':' delimiter"
  | comma => "Expecting ',' delimiter"
  | extraData => "Extra data"
  | byteOrderMark => "Unexpected UTF-8 BOM (decode using utf-8-sig)"
  | unterminatedString => "Unterminated string starting at"
  | controlCharacter => "Invalid control character at"
  | escape => "Invalid \\escape"
  | unicodeEscape => "Invalid \\uXXXX escape"
  | loneSurrogate => "Lone surrogate at"
  | deepArray => "maximum recursion depth exceeded while decoding a JSON array from a unicode string"
  | deepObject => "maximum recursion depth exceeded while decoding a JSON object from a unicode string"
  | manyDigits count => (Numeral.DigitError.reading count).message

/-- Nothing is wrong with the text, but it goes beyond what can be read. -/
def JsonFault.isLimit : JsonFault → Bool
  | deepArray => true
  | deepObject => true
  | manyDigits _ => true
  | _ => false

namespace Json

open Numeral

inductive Token where
  | openBrace
  | closeBrace
  | openBracket
  | closeBracket
  | colon
  | comma
  | null
  | bool (b : Bool)
  | int (n : Int)
  | real (text : Text)
  | str (text : Text)
  | badString (fault : JsonFault) (position : Nat)
  | stray
  deriving DecidableEq, Repr

def isSpace (c : Char) : Bool :=
  c == ' ' || c == '\t' || c == '\n' || c == '\r'

def unit? (a b c d : Char) : Option Nat :=
  if [a, b, c, d].all isHexDigit then some (ofDigits 16 (leadingDigits hexDigit? [a, b, c, d])) else none

def isHighSurrogate (n : Nat) : Bool :=
  0xD800 ≤ n && n ≤ 0xDBFF

def isLowSurrogate (n : Nat) : Bool :=
  0xDC00 ≤ n && n ≤ 0xDFFF

def joinSurrogates (high low : Nat) : Char :=
  Char.ofNat (0x10000 + (high - 0xD800) * 0x400 + (low - 0xDC00))

def escaped? : Char → Option Char
  | '"' => some '"'
  | '\\' => some '\\'
  | '/' => some '/'
  | 'b' => some (Char.ofNat 8)
  | 'f' => some (Char.ofNat 12)
  | 'n' => some '\n'
  | 'r' => some '\r'
  | 't' => some '\t'
  | _ => none

/-- A text that goes on behind a character, if the text can hold both. -/
def behind (c : Option Char) (r : Option Text × Nat) : Option Text × Nat :=
  (c.bind fun c => r.1.map (c :: ·), r.2)

/-- The character of an escape that is not one of a pair. -/
def single? (n : Nat) : Option Char :=
  if isHighSurrogate n || isLowSurrogate n then none else some (Char.ofNat n)

/-- The rest of a string whose quote stands at `start`, read from `position` on, with the position behind
its closing quote. A Unicode escape needs a character behind its digits. There is no text if half of a pair is
in it. -/
def readString (start position : Nat) : Text → Except (JsonFault × Nat) (Option Text × Nat)
  | [] => .error (.unterminatedString, start)
  | '"' :: _ => .ok (some [], position + 1)
  | '\\' :: 'u' :: a :: b :: c :: d :: '\\' :: 'u' :: e :: f :: g :: h :: next :: rest =>
    match unit? a b c d with
    | none => .error (.unicodeEscape, position + 1)
    | some high =>
      if isHighSurrogate high then
        match unit? e f g h with
        | none => .error (.unicodeEscape, position + 7)
        | some low =>
          if isLowSurrogate low then
            (readString start (position + 12) (next :: rest)).map (behind (joinSurrogates high low))
          else
            (readString start (position + 6) ('\\' :: 'u' :: e :: f :: g :: h :: next :: rest)).map (behind none)
      else
        (readString start (position + 6) ('\\' :: 'u' :: e :: f :: g :: h :: next :: rest)).map (behind (single? high))
  | '\\' :: 'u' :: a :: b :: c :: d :: next :: rest =>
    match unit? a b c d with
    | none => .error (.unicodeEscape, position + 1)
    | some n => (readString start (position + 6) (next :: rest)).map (behind (single? n))
  | '\\' :: 'u' :: _ => .error (.unicodeEscape, position + 1)
  | ['\\'] => .error (.unterminatedString, start)
  | '\\' :: c :: rest =>
    match escaped? c with
    | none => .error (.escape, position)
    | some x => (readString start (position + 2) rest).map (behind (some x))
  | c :: rest =>
    if c.toNat < 0x20 then .error (.controlCharacter, position)
    else (readString start (position + 1) rest).map (behind (some c))
termination_by t => t.length

def digitsOf (t : Text) : Text :=
  t.takeWhile Char.isDigit

/-- The digits in front of any fraction: one zero, or digits that do not begin with it. -/
def wholeDigits : Text → Text
  | '0' :: _ => ['0']
  | t => digitsOf t

def fraction : Text → Text
  | '.' :: rest => if (digitsOf rest).isEmpty then [] else '.' :: digitsOf rest
  | _ => []

def exponentSign : Text → Text
  | '+' :: _ => ['+']
  | '-' :: _ => ['-']
  | _ => []

def exponent : Text → Text
  | c :: rest =>
    if c = 'e' || c = 'E' then
      let sign := exponentSign rest
      let digits := digitsOf (rest.drop sign.length)
      if digits.isEmpty then [] else c :: sign ++ digits
    else []
  | [] => []

def minus : Text → Text
  | '-' :: _ => ['-']
  | _ => []

/-- A number and its length. -/
def number? (t : Text) : Option (Token × Nat) :=
  let sign := minus t
  let whole := wholeDigits (t.drop sign.length)
  if whole.isEmpty then none
  else
    let integer := sign ++ whole
    let behind := fraction (t.drop integer.length)
    let power := exponent (t.drop (integer.length + behind.length))
    let spelled := integer ++ behind ++ power
    if spelled.length = integer.length then
      let n := ofDigits 10 (whole.map fun c => c.toNat - 48)
      some (.int (if sign.isEmpty then n else -n), spelled.length)
    else some (.real spelled, spelled.length)

def keywords : List (Text × Token) := [
  ("null", .null), ("true", .bool true), ("false", .bool false),
  ("NaN", .real "NaN"), ("Infinity", .real "Infinity"), ("-Infinity", .real "-Infinity")]

/-- The token at the head of a text that begins with no space, and its length. -/
def tokenAt (position : Nat) (t : Text) : Token × Nat :=
  match t with
  | '\x7b' :: _ => (.openBrace, 1)
  | '\x7d' :: _ => (.closeBrace, 1)
  | '[' :: _ => (.openBracket, 1)
  | ']' :: _ => (.closeBracket, 1)
  | ':' :: _ => (.colon, 1)
  | ',' :: _ => (.comma, 1)
  | '"' :: rest =>
    match readString position (position + 1) rest with
    | .ok (some text, behind) => (.str text, behind - position)
    | .ok (none, _) => (.badString .loneSurrogate position, 1)
    | .error (fault, place) => (.badString fault place, 1)
  | _ =>
    match keywords.find? fun k => k.1.isPrefixOf t with
    | some k => (k.2, k.1.length)
    | none => (number? t).getD (.stray, 1)

/-- The tokens of a text with their positions. `skip` counts the characters of a token that are still to be
passed over. -/
def tokensFrom (position skip : Nat) : Text → List (Nat × Token)
  | [] => []
  | c :: rest =>
    match skip with
    | k + 1 => tokensFrom (position + 1) k rest
    | 0 =>
      if isSpace c then tokensFrom (position + 1) 0 rest
      else
        let (token, length) := tokenAt position (c :: rest)
        (position, token) :: tokensFrom (position + 1) (length - 1) rest

def tokens (t : Text) : List (Nat × Token) :=
  tokensFrom 0 0 t

end Json

end Stepper
