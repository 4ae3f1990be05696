import Stepper.Unicode.Table

/-! The blanks: the characters at which text is trimmed and split into words. They are the white space
of Unicode and the four separators U+001C to U+001F, 29 characters in all. -/

namespace Stepper.Unicode

def blankTable : List (Nat × Nat) :=
  [(0x9, 0xD), (0x1C, 0x20), (0x85, 0x85), (0xA0, 0xA0), (0x1680, 0x1680), (0x2000, 0x200A),
  (0x2028, 0x2029), (0x202F, 0x202F), (0x205F, 0x205F), (0x3000, 0x3000)]

def isBlank (c : Char) : Bool :=
  inTable blankTable c.toNat

end Stepper.Unicode
