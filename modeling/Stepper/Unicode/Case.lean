import Stepper.Unicode.CaseTable

/-! Lower and upper case of text. Both are the full mappings, so the length may change. The one mapping
that looks at its neighbours is that of the capital sigma, which is lowered to its final form at the
end of a word. -/

namespace Stepper.Unicode

def moveCase (runs : List CaseRun) (n : Nat) : Nat :=
  match runs.find? (·.holds n) with
  | some r => r.move n
  | none => n

def isCased (c : Char) : Bool :=
  inTable casedTable c.toNat

def isCaseIgnorable (c : Char) : Bool :=
  inTable caseIgnorableTable c.toNat

/-- The nearest character that is not ignored is cased. -/
def nextIsCased (cs : List Char) : Bool :=
  match cs.dropWhile isCaseIgnorable with
  | [] => false
  | c :: _ => isCased c

/-- Lower case of one character away from the rule of the sigma. -/
def lowerChar (c : Char) : List Char :=
  if c.toNat < 128 then [c.toLower]
  else if c.toNat = 0x130 then ['i', Char.ofNat 0x307]
  else [Char.ofNat (moveCase lowerRuns c.toNat)]

def upperChar (c : Char) : List Char :=
  if c.toNat < 128 then [c.toUpper]
  else match upperExpansions.find? (·.1 == c.toNat) with
    | some e => e.2.map Char.ofNat
    | none => [Char.ofNat (moveCase upperRuns c.toNat)]

/-- Lower case of the text `rest` that stands after `seen`, which is in reverse. -/
def lowerAfter (seen : List Char) : List Char → List Char
  | [] => []
  | c :: rest =>
    (if c.toNat = 0x3A3 && nextIsCased seen && !nextIsCased rest then [Char.ofNat 0x3C2] else lowerChar c)
      ++ lowerAfter (c :: seen) rest

def lower (t : List Char) : List Char :=
  lowerAfter [] t

def upper (t : List Char) : List Char :=
  t.flatMap upperChar

theorem lowerChar_ascii {c : Char} (h : c.toNat < 128) : lowerChar c = [c.toLower] := by
  simp [lowerChar, h]

theorem upperChar_ascii {c : Char} (h : c.toNat < 128) : upperChar c = [c.toUpper] := by
  simp [upperChar, h]

end Stepper.Unicode
