import Stepper.Json.Token

/-! JSON values, their reader and the writer of flat objects. The reader walks over the tokens with a stack of
the arrays and objects that are still open, and refuses a text at the first token that cannot follow or that
goes beyond a limit. -/

namespace Stepper

inductive JsonValue where
  | null
  | bool (b : Bool)
  | int (n : Int)
  | real (text : Text)
  | str (text : Text)
  | arr (items : List JsonValue)
  | obj (members : List (Text × JsonValue))

/-- Refusal of a text at a position. -/
structure JsonError where
  fault : JsonFault
  line : Nat
  column : Nat
  position : Nat
  deriving DecidableEq, Repr

def JsonError.message (e : JsonError) : Text :=
  e.fault.text ++ ": line " ++ Numeral.natDecimal e.line ++ " column " ++ Numeral.natDecimal e.column ++
    " (char " ++ Numeral.natDecimal e.position ++ ")"

/-- Lines and columns count from one. -/
def JsonError.at (t : Text) (fault : JsonFault) (position : Nat) : JsonError :=
  let seen := t.take position
  ⟨fault, seen.count '\n' + 1, (seen.reverse.takeWhile (· != '\n')).length + 1, position⟩

namespace Json

/-- A name that is there already keeps its place and takes the new value. -/
def assign (name : Text) (value : JsonValue) : List (Text × JsonValue) → List (Text × JsonValue)
  | [] => [(name, value)]
  | (n, v) :: rest => if n = name then (n, value) :: rest else (n, v) :: assign name value rest

/-- An open array with its items so far, or an open object with its members so far and the name whose value
is being read. -/
inductive Frame where
  | array (items : List JsonValue)
  | object (members : List (Text × JsonValue)) (name : Text)

inductive Expectation where
  | value
  | firstItem
  | firstName
  | name
  | colon
  | comma
  | done (j : JsonValue)

def Expectation.fault : Expectation → JsonFault
  | value => .value
  | firstItem => .value
  | firstName => .propertyName
  | name => .propertyName
  | colon => .colon
  | comma => .comma
  | done _ => .extraData

/-- A value is complete: it is the whole, or it goes to the innermost open array or object. -/
def complete (j : JsonValue) : List Frame → Expectation × List Frame
  | [] => (.done j, [])
  | .array items :: outer => (.comma, .array (items ++ [j]) :: outer)
  | .object members name :: outer => (.comma, .object (assign name j members) name :: outer)

def opens : Token → Option (Expectation × Frame)
  | .openBracket => some (.firstItem, .array [])
  | .openBrace => some (.firstName, .object [] [])
  | _ => none

def scalar? : Token → Option JsonValue
  | .null => some .null
  | .bool b => some (.bool b)
  | .int n => some (.int n)
  | .real t => some (.real t)
  | .str t => some (.str t)
  | _ => none

/-- A value begins, if the token can begin one. -/
def begin? (token : Token) (stack : List Frame) : Option (Expectation × List Frame) :=
  match opens token with
  | some (e, frame) => some (e, frame :: stack)
  | none => (scalar? token).map fun j => complete j stack

/-- What is expected behind a token, if the token can stand here. -/
def advance? (e : Expectation) (stack : List Frame) (token : Token) : Option (Expectation × List Frame) :=
  match e, token, stack with
  | .firstItem, .closeBracket, .array items :: outer => some (complete (.arr items) outer)
  | .firstName, .closeBrace, .object members _ :: outer => some (complete (.obj members) outer)
  | .firstName, .str name, .object members _ :: outer => some (.colon, .object members name :: outer)
  | .name, .str name, .object members _ :: outer => some (.colon, .object members name :: outer)
  | .colon, .colon, _ => some (.value, stack)
  | .comma, .comma, .array _ :: _ => some (.value, stack)
  | .comma, .comma, .object _ _ :: _ => some (.name, stack)
  | .comma, .closeBracket, .array items :: outer => some (complete (.arr items) outer)
  | .comma, .closeBrace, .object members _ :: outer => some (complete (.obj members) outer)
  | .value, _, _ => begin? token stack
  | .firstItem, _, _ => begin? token stack
  | _, _, _ => none

/-- A malformed string is at fault itself where a string could stand. -/
def faultAt (e : Expectation) (position : Nat) : Token → JsonFault × Nat
  | .badString fault place =>
    match e with
    | .value | .firstItem | .firstName | .name => (fault, place)
    | _ => (e.fault, position)
  | _ => (e.fault, position)

/-- The fault of a token that opens one more array or object than may be open, or has too many digits. -/
def limitFault? (depth : Nat) (stack : List Frame) : Token → Option JsonFault
  | .openBracket => if stack.length < depth then none else some .deepArray
  | .openBrace => if stack.length < depth then none else some .deepObject
  | .int n =>
    let count := (Numeral.natDecimal n.natAbs).length
    if count ≤ Numeral.digitLimit then none else some (.manyDigits count)
  | _ => none

/-- Reads tokens up to the end of a text of the given length. -/
def readTokens (depth length : Nat) (e : Expectation) (stack : List Frame) :
    List (Nat × Token) → Except (JsonFault × Nat) JsonValue
  | [] =>
    match e with
    | .done j => .ok j
    | _ => .error (e.fault, length)
  | (position, token) :: rest =>
    match advance? e stack token with
    | none => .error (faultAt e position token)
    | some (e', stack') =>
      match limitFault? depth stack token with
      | some fault => .error (fault, position)
      | none => readTokens depth length e' stack' rest

/-- Reads a text in which at most `depth` arrays and objects are open at a time. -/
def read (depth : Nat) (t : Text) : Except JsonError JsonValue :=
  if t.head? = some (Char.ofNat 0xFEFF) then .error (.at t .byteOrderMark 0)
  else (readTokens depth t.length .value [] (tokens t)).mapError fun f => .at t f.1 f.2

/-! ### Writing -/

def escapeUnit (n : Nat) : Text :=
  "\\u" ++ Numeral.padTo 4 (Numeral.natHex n)

/-- Everything beyond printable ASCII is escaped, in two units beyond the first plane. -/
def escapeChar (c : Char) : Text :=
  if c = '"' then "\\\""
  else if c = '\\' then "\\\\"
  else if c = '\n' then "\\n"
  else if c = '\r' then "\\r"
  else if c = '\t' then "\\t"
  else if c.toNat = 12 then "\\f"
  else if c.toNat = 8 then "\\b"
  else if 32 ≤ c.toNat && c.toNat < 127 then [c]
  else if c.toNat < 0x10000 then escapeUnit c.toNat
  else
    let n := c.toNat - 0x10000
    escapeUnit (0xD800 + n / 0x400) ++ escapeUnit (0xDC00 + n % 0x400)

def quote (t : Text) : Text :=
  '"' :: t.flatMap escapeChar ++ ['"']

/-- The text of a value that holds no others. -/
def writeScalar : JsonValue → Except Numeral.DigitError Text
  | .null => .ok "null"
  | .bool b => .ok (if b then "true" else "false")
  | .int n => Numeral.writeDecimal n
  | .real t => .ok t
  | .str t => .ok (quote t)
  | .arr _ => .ok "[]"
  | .obj _ => .ok "\x7b\x7d"

def memberHead (name : Text) : Text :=
  "  " ++ quote name ++ ": "

/-- Members of such values, one on a line. The text ends in front of a value that cannot be written. -/
def writeMembers : List (Text × JsonValue) → Text × Except Numeral.DigitError Unit
  | [] => ([], .ok ())
  | (name, value) :: rest =>
    match writeScalar value with
    | .error cause => (memberHead name, .error cause)
    | .ok text =>
      let (others, result) := writeMembers rest
      (memberHead name ++ text ++ (if rest.isEmpty then [] else ",\n") ++ others, result)

/-- An object of such values: its text as far as it goes, and whether that is all. -/
def writeFlat (members : List (Text × JsonValue)) : Text × Except Numeral.DigitError Unit :=
  match writeMembers members with
  | (text, .ok ()) => ("\x7b\n" ++ text ++ "\n\x7d", .ok ())
  | (text, .error cause) => ("\x7b\n" ++ text, .error cause)

end Json

end Stepper
