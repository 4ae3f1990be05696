import Stepper.Numeral.Basic

/-! The register file: `x0` to `x30`, the stack pointer and the program counter. -/

namespace Stepper

abbrev registerCount : Nat := 33

abbrev Reg := Fin registerCount

namespace Reg

def fp : Reg := 29

/-- Holds the return address. -/
def link : Reg := 30

def sp : Reg := 31

def pc : Reg := 32

def name (r : Reg) : Text :=
  if r = sp then "sp"
  else if r = pc then "pc"
  else 'x' :: Numeral.natDecimal r.val

def ofNat? (n : Nat) : Option Reg :=
  if h : n < registerCount then some ⟨n, h⟩ else none

/-- A number that names no register gives none. -/
def ofInt? : Int → Option Reg
  | .ofNat n => ofNat? n
  | .negSucc _ => none

def all : List Reg :=
  List.finRange registerCount

end Reg

/-- Why there is no register at an index. One from the limit on is no index at all. -/
inductive RegisterError where
  | noneToRead
  | noneToWrite
  | noIndex
  deriving DecidableEq, Repr

def RegisterError.message : RegisterError → Text
  | noneToRead => "list index out of range"
  | noneToWrite => "list assignment index out of range"
  | noIndex => "cannot fit 'int' into an index-sized integer"

def indexLimit : Int := 0x8000000000000000

/-- The register at an index, or else the error that is given for one that is out of range. -/
def Reg.atIndex (outOfRange : RegisterError) (i : Int) : Except RegisterError Reg :=
  match Reg.ofInt? i with
  | some r => .ok r
  | none => .error (if i < indexLimit then outOfRange else .noIndex)

end Stepper
