import Stepper.Text.Basic

/-! Lines of a text. A line ends at any of ten line breaks or at a carriage return with its line feed;
a break at the end of the text opens no further line. -/

namespace Stepper.Text

def isLineBreak (c : Char) : Bool :=
  let n := c.toNat
  (0x0A ≤ n && n ≤ 0x0D) || (0x1C ≤ n && n ≤ 0x1E) || n == 0x85 || n == 0x2028 || n == 0x2029

def lines : Text → List Text
  | [] => []
  | '\r' :: '\n' :: rest => [] :: lines rest
  | c :: rest =>
    if isLineBreak c then [] :: lines rest
    else match lines rest with
      | [] => [[c]]
      | line :: more => (c :: line) :: more

def unlines (ls : List Text) : Text :=
  ls.flatMap (· ++ ['\n'])

/-- Line feeds for the other two ways in which files end their lines. -/
def withLineFeeds : Text → Text
  | [] => []
  | '\r' :: '\n' :: rest => '\n' :: withLineFeeds rest
  | '\r' :: rest => '\n' :: withLineFeeds rest
  | c :: rest => c :: withLineFeeds rest

end Stepper.Text
