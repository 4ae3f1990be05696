/-! Words of 64 bits, kept as integers. `wrap` brings any integer into their range. -/

namespace Stepper.Word

def bytes : Nat := 8

/-- The number of words, 2 to the power of 64. -/
def limit : Nat := 0x10000000000000000

def wrap (v : Int) : Int :=
  v % limit

theorem wrap_nonneg (v : Int) : 0 ≤ wrap v :=
  Int.emod_nonneg _ (by decide)

theorem wrap_lt (v : Int) : wrap v < limit :=
  Int.emod_lt_of_pos _ (by decide)

theorem wrap_of_range {v : Int} (h0 : 0 ≤ v) (h : v < limit) : wrap v = v :=
  Int.emod_eq_of_lt h0 h

end Stepper.Word
