import Stepper.Text.Basic

/-! Comments. A line comment runs from `//` or `;` to the end of its line; a block comment runs from `/*` to
the first `*/` behind it, and one that is never closed is no comment. -/

namespace Stepper.Asm

/-- The text up to the first occurrence of a marker. -/
def cutAt (marker : Text) : Text → Text
  | [] => []
  | c :: rest => if marker.isPrefixOf (c :: rest) then [] else c :: cutAt marker rest

/-- What stands behind the first `*/`. -/
def afterClose? : Text → Option Text
  | '*' :: '/' :: rest => some rest
  | _ :: rest => afterClose? rest
  | [] => none

theorem length_of_afterClose? {t r : Text} (h : afterClose? t = some r) : r.length < t.length := by
  fun_induction afterClose? t with
  | case1 rest =>
    obtain rfl := Option.some.inj h
    simp only [List.length_cons]
    omega
  | case2 c rest _ ih =>
    have := ih h
    simp only [List.length_cons]
    omega
  | case3 => simp at h

def dropBlocks : Text → Text
  | [] => []
  | '/' :: '*' :: rest =>
    match _h : afterClose? rest with
    | some after => dropBlocks after
    | none => '/' :: '*' :: rest
  | c :: rest => c :: dropBlocks rest
termination_by t => t.length
decreasing_by
  · have := length_of_afterClose? _h; simp; omega
  · simp

/-- A line without its comments. The line comments go first, so a block that one of them cuts open stays. -/
def stripComment (line : Text) : Text :=
  dropBlocks (cutAt [';'] (cutAt ['/', '/'] line))

end Stepper.Asm
