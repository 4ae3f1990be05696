/-! Tables of character properties. A property is a list of ranges of code points, both ends included;
a case mapping is a list of runs, each of which moves every code point it holds by one distance.
The tables in the modules beside this one are those of Unicode 14.0. -/

namespace Stepper.Unicode

def inTable (table : List (Nat × Nat)) (n : Nat) : Bool :=
  table.any fun r => r.1 ≤ n && n ≤ r.2

/-- The code points `first`, `first + stride`, … up to `last` move by `shift`. -/
structure CaseRun where
  first : Nat
  last : Nat
  stride : Nat
  shift : Int

namespace CaseRun

def holds (r : CaseRun) (n : Nat) : Bool :=
  r.first ≤ n && n ≤ r.last && (n - r.first) % r.stride == 0

def move (r : CaseRun) (n : Nat) : Nat :=
  ((n : Int) + r.shift).toNat

end CaseRun

theorem inTable_iff (table : List (Nat × Nat)) (n : Nat) :
    inTable table n = true ↔ ∃ r ∈ table, r.1 ≤ n ∧ n ≤ r.2 := by
  simp [inTable]

end Stepper.Unicode
