import Stepper.Unicode.Blank

/-! Text as a list of characters, so that lengths, cursors and cuts count code points. Blanks are trimmed
and words are parted by the rule of `Unicode.isBlank`. -/

namespace Stepper

abbrev Text := List Char

instance : Coe String Text := ⟨String.toList⟩

namespace Text

open Unicode

def trimStart (t : Text) : Text :=
  t.dropWhile isBlank

def trimEnd (t : Text) : Text :=
  (t.reverse.dropWhile isBlank).reverse

def trim (t : Text) : Text :=
  trimEnd (trimStart t)

/-- The pieces between the separators, always at least one. -/
def splitWhen (p : Char → Bool) : Text → List Text
  | [] => [[]]
  | c :: rest =>
    if p c then [] :: splitWhen p rest
    else match splitWhen p rest with
      | [] => [[c]]
      | piece :: pieces => (c :: piece) :: pieces

def splitOn (sep : Char) (t : Text) : List Text :=
  splitWhen (· == sep) t

def words (t : Text) : List Text :=
  (splitWhen isBlank t).filter (!·.isEmpty)

def unwords (ws : List Text) : Text :=
  List.intercalate [' '] ws

def join (sep : Text) (ts : List Text) : Text :=
  List.intercalate sep ts

/-- Every run of blanks becomes one space. -/
def squeeze : Text → Text
  | [] => []
  | c :: rest =>
    if isBlank c then
      match rest with
      | d :: _ => if isBlank d then squeeze rest else ' ' :: squeeze rest
      | [] => [' ']
    else c :: squeeze rest

theorem splitWhen_ne_nil (p : Char → Bool) (t : Text) : splitWhen p t ≠ [] := by
  cases t with
  | nil => simp [splitWhen]
  | cons c rest =>
    unfold splitWhen
    split
    · simp
    · split <;> simp

theorem not_of_mem_splitWhen {p : Char → Bool} {t piece : Text} (h : piece ∈ splitWhen p t) :
    ∀ c ∈ piece, p c = false := by
  fun_induction splitWhen p t generalizing piece with
  | case1 => simp_all
  | case2 c rest hc ih =>
    rcases List.mem_cons.1 h with rfl | h
    · simp
    · exact ih h
  | case3 c rest hc hs ih => exact absurd hs (splitWhen_ne_nil p rest)
  | case4 c rest hc first others hs ih =>
    rcases List.mem_cons.1 h with rfl | h
    · intro d hd
      rcases List.mem_cons.1 hd with rfl | hd
      · simpa using hc
      · exact ih (hs ▸ List.mem_cons_self) d hd
    · exact ih (hs ▸ List.mem_cons_of_mem _ h)

end Text

end Stepper
