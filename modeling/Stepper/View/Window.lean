/-! The part of a sequence that a panel shows. A window over the listing keeps some lines before its focus
in sight; a window over the stack ends where the stack ends. -/

namespace Stepper

structure Window where
  start : Int
  count : Int
  deriving DecidableEq, Repr

namespace Window

def defaultCapacity : Int := 20

def defaultLookBehind : Int := 5

def empty : Window := ⟨0, 0⟩

def stop (w : Window) : Int :=
  w.start + w.count

def contains (w : Window) (i : Int) : Bool :=
  w.start ≤ i && i < w.stop

def indices (w : Window) : List Nat :=
  (List.range w.count.toNat).map (w.start.toNat + ·)

/-- Starts `lookBehind` items before the focus. In a sequence longer than the window the start is held at
`length - capacity - 1`, so that the window stays full. -/
def around (focus length capacity lookBehind : Int) : Window :=
  if length ≤ 0 ∨ capacity ≤ 0 then empty
  else
    let wanted := focus - lookBehind
    let held := if capacity < length then min wanted (length - capacity - 1) else wanted
    let start := min (max 0 held) length
    ⟨start, min capacity (length - start)⟩

def tail (length capacity : Int) : Window :=
  if length ≤ 0 ∨ capacity ≤ 0 then empty
  else ⟨max 0 (length - capacity), min capacity length⟩

end Window

end Stepper
