import Stepper.Proofs.Machine.Range
import Stepper.Proofs.Numeral.Lenient
import Stepper.Proofs.Unicode.Stop

/-! Numbers as a user may type them: with blanks and a sign in front, with the digits of any of the bases, and with anything
behind that does not go on with the number. Both readers find the number that was written, and zero where there is none.
A digit of a decimal number may be one of any script, so such a digit behind a number goes on with it. Only a decimal
number can have too many digits for the readers, and neither then finds anything. -/

namespace Stepper.Numeral

open Text Unicode

/-! ### Ways of writing -/

/-- The sign in front of a number, if there is one, and whether it is a minus. -/
inductive Sign : Bool → Text → Prop
  | none : Sign false []
  | plus : Sign false ['+']
  | minus : Sign true ['-']

/-- The digits of a number in a base, as a reader takes them, with any zeros in front. -/
def HasDigits (digit? : Char → Option Nat) (base n : Nat) (t : Text) : Prop :=
  ∃ zeros, t.map digit? = (List.replicate zeros '0' ++ Nat.toDigits base n).map digit?

/-- What stands behind a number does not go on with its digits. -/
def Ends (digit? : Char → Option Nat) (behind : Text) : Prop := ∀ c ∈ behind.head?, digit? c = none

/-- With a zero in front of it the text is a hexadecimal number. -/
def MarksHex (t : Text) : Prop :=
  ∃ x d rest, t = x :: d :: rest ∧ (x = 'x' ∨ x = 'X') ∧ isHexDigit d = true

/-- The ways to write a number for the reader of words, with a text behind it: in decimal without zeros in front, where
the first digit is one of ASCII; in hexadecimal behind its mark, in any letter case; in octal with a zero in front. -/
inductive Spelling (n : Nat) (behind : Text) : Text → Prop
  | decimal {t : Text} (digits : t.map digit? = (natDecimal n).map digit?) (ascii : ∀ c ∈ t.head?, c.isDigit = true)
    (ends : Ends digit? behind) (unmarked : n = 0 → ¬ MarksHex behind) : Spelling n behind t
  | hex {x : Char} {t : Text} (mark : x = 'x' ∨ x = 'X') (digits : HasDigits hexDigit? 16 n t)
    (ends : Ends hexDigit? behind) : Spelling n behind ('0' :: x :: t)
  | octal {t : Text} (digits : HasDigits octalDigit? 8 n ('0' :: t)) (ends : Ends octalDigit? behind)
    (unmarked : t = [] → ¬ MarksHex behind) : Spelling n behind ('0' :: t)

/-! ### Digits -/

section

variable {digit?' : Char → Option Nat} {base n : Nat} {t u behind : Text}

theorem leadingDigits_congr (h : t.map digit?' = u.map digit?') : leadingDigits digit?' t = leadingDigits digit?' u := by
  induction t generalizing u with
  | nil =>
    obtain rfl : u = [] := by simpa [eq_comm] using h
    rfl
  | cons c t ih =>
    obtain ⟨d, u, rfl⟩ : ∃ d v, u = d :: v := List.exists_cons_of_ne_nil (by rintro rfl; simp at h)
    obtain ⟨hhead, htail⟩ := List.cons.inj h
    simp only [leadingDigits, ih htail]
    rw [hhead]

theorem leadingDigits_append_of_ends (ht : ∀ c ∈ t, (digit?' c).isSome = true) (h : Ends digit?' behind) :
    leadingDigits digit?' (t ++ behind) = leadingDigits digit?' t := by
  have hbehind : leadingDigits digit?' behind = [] := by
    cases behind with
    | nil => rfl
    | cons c rest => simp [leadingDigits, h c (by simp)]
  rw [leadingDigits_append ht, hbehind, List.append_nil]

variable (hbase : 1 < base) (hdigit : ∀ d < base, digit?' (Nat.digitChar d) = some d)

include hbase hdigit

theorem HasDigits.isSome (h : HasDigits digit?' base n t) : ∀ c ∈ t, (digit?' c).isSome = true := by
  obtain ⟨zeros, hmap⟩ := h
  intro c hc
  have hmem : digit?' c ∈ (List.replicate zeros '0' ++ Nat.toDigits base n).map digit?' := hmap ▸ List.mem_map_of_mem hc
  obtain ⟨e, he, heq⟩ := List.mem_map.1 hmem
  rw [← heq]
  rcases List.mem_append.1 he with he | he
  · rw [List.eq_of_mem_replicate he]
    exact Option.isSome_of_eq_some (hdigit 0 (by omega))
  · obtain ⟨d, hd, rfl⟩ := exists_of_mem_toDigits hbase he
    exact Option.isSome_of_eq_some (hdigit d hd)

/-- The digits are worth the number, if nothing goes on with them. -/
theorem HasDigits.value (h : HasDigits digit?' base n t) (hends : Ends digit?' behind) :
    ofDigits base (leadingDigits digit?' (t ++ behind)) = n := by
  rw [leadingDigits_append_of_ends (h.isSome hbase hdigit) hends]
  obtain ⟨zeros, hmap⟩ := h
  rw [leadingDigits_congr hmap, ofDigits_zeros (hdigit 0 (by omega)), ofDigits_toDigits hbase hdigit]

end

theorem HasDigits.ne_nil {digit?' : Char → Option Nat} {base n : Nat} {t : Text} (h : HasDigits digit?' base n t) :
    t ≠ [] := by
  rintro rfl
  obtain ⟨zeros, hmap⟩ := h
  simp [Nat.toDigits_ne_nil] at hmap

theorem octalDigit?_digitChar : ∀ d < 8, octalDigit? (Nat.digitChar d) = some d := by decide

/-- The number of the digits decides whether a decimal number is read. -/
theorem HasDigits.decimal {n : Nat} {t behind : Text} (h : HasDigits digit? 10 n t) (hends : Ends digit? behind) :
    ofDecimalDigits (leadingDigits digit? (t ++ behind)) =
      if digitLimit < t.length then .error (.reading t.length) else .ok n := by
  have hall := h.isSome (by decide) digit?_digitChar
  have hlength : (leadingDigits digit? (t ++ behind)).length = t.length := by
    rw [leadingDigits_append_of_ends hall hends, length_leadingDigits_of_digits hall]
  split
  · next hlong => rw [ofDecimalDigits_of_lt (hlength ▸ hlong), hlength]
  · next hshort =>
    rw [ofDecimalDigits_of_le (hlength ▸ Nat.le_of_not_lt hshort), h.value (by decide) digit?_digitChar hends]

/-- The decimal digits that a text starts with, and what stops them. -/
theorem ends_dropWhile (t : Text) : Ends digit? (t.dropWhile isDigit) := by
  intro c hc
  have hno := List.head?_dropWhile_not isDigit t
  rw [Option.mem_def.1 hc] at hno
  simpa [isDigit] using hno

theorem length_leadingDigits (t : Text) : (leadingDigits digit? t).length = (t.takeWhile isDigit).length := by
  have hall : ∀ c ∈ t.takeWhile isDigit, isDigit c = true := fun c hc => List.mem_takeWhile_imp hc
  have happend := leadingDigits_append_of_ends hall (ends_dropWhile t)
  rw [List.takeWhile_append_dropWhile] at happend
  rw [happend, length_leadingDigits_of_digits hall]

/-- Digits that the reader of words takes for a decimal number, and that are too many for it. -/
structure Overlong (t : Text) : Prop where
  digits : ∀ c ∈ t, isDigit c = true
  first : ∀ c ∈ t.head?, '1' ≤ c ∧ c ≤ '9'
  long : digitLimit < t.length

theorem not_overlong_zero (t : Text) : ¬Overlong ('0' :: t) :=
  fun h => absurd (h.first '0' (by simp)).1 (by decide)

/-! ### Blanks and signs -/

/-- What a number starts with in the digits of any script. -/
theorem not_blank_or_sign {c : Char} (h : isDigit c = true) : isBlank c = false ∧ c ≠ '+' ∧ c ≠ '-' := by
  refine ⟨?_, ?_, ?_⟩
  · by_contra hblank
    have hstop := isStop_of_isBlank (c := c) (by simpa using hblank)
    simp [isStop_of_isDigit h] at hstop
  · rintro rfl
    exact absurd h (by decide)
  · rintro rfl
    exact absurd h (by decide)

/-- Blanks and a sign are taken off a number. -/
theorem splitSign_typed {blanks sign : Text} {negative : Bool} (hblanks : AllBlank blanks) (hsign : Sign negative sign) {c : Char}
    (hc : isDigit c = true) (t : Text) : splitSign (trimStart (blanks ++ (sign ++ c :: t))) = (negative, c :: t) := by
  obtain ⟨hblank, hplus, hminus⟩ := not_blank_or_sign hc
  rw [trimStart_append_of_blank hblanks]
  cases hsign with
  | none => exact splitSign_trimStart hblank hplus hminus t
  | plus => rw [List.singleton_append, trimStart_of_head (by simp; decide)]; rfl
  | minus => rw [List.singleton_append, trimStart_of_head (by simp; decide)]; rfl

/-- Every text is blanks, a sign and the rest that the readers look at. -/
theorem exists_typed (t : Text) : ∃ blanks sign, AllBlank blanks ∧ Sign (splitSign (trimStart t)).1 sign ∧
    t = blanks ++ (sign ++ (splitSign (trimStart t)).2) := by
  obtain ⟨blanks, hblanks, ht⟩ := exists_trimStart t
  generalize trimStart t = u at ht
  obtain ⟨sign, hsign, hu⟩ : ∃ sign, Sign (splitSign u).1 sign ∧ u = sign ++ (splitSign u).2 := by
    unfold splitSign
    split
    · exact ⟨_, .plus, rfl⟩
    · exact ⟨_, .minus, rfl⟩
    · exact ⟨_, .none, rfl⟩
  exact ⟨blanks, sign, hblanks, hsign, by rw [← hu]; exact ht⟩

/-! ### The readers -/

theorem readMagnitude_octal {t : Text} (h : ¬ MarksHex t) :
    readMagnitude ('0' :: t) = .ok (ofDigits 8 (leadingDigits octalDigit? ('0' :: t))) := by
  have hzero : ofDigits 8 (leadingDigits octalDigit? ('0' :: t)) = ofDigits 8 (leadingDigits octalDigit? t) :=
    ofDigits_zeros (by decide) 8 1 t
  rw [hzero]
  match t with
  | [] => rfl
  | [x] => rfl
  | x :: d :: rest =>
    rw [readMagnitude, if_neg]
    intro hmark
    exact h ⟨x, d, rest, rfl, by simpa using hmark⟩

theorem isDigit_of_range {c : Char} (h0 : '0' ≤ c) (h9 : c ≤ '9') : c.isDigit = true := by
  simpa [Char.isDigit] using ⟨h0, h9⟩

theorem digit?_of_isDigit {c : Char} (h : c.isDigit = true) : digit? c = some (c.toNat - 48) := by
  rw [digit?, if_pos (ascii_of_isDigit h), if_pos h]

theorem isDigit_of_octalDigit? {c : Char} (h : (octalDigit? c).isSome = true) : c.isDigit = true := by
  unfold octalDigit? at h
  split at h
  · next hrange =>
    simp only [Bool.and_eq_true, decide_eq_true_eq] at hrange
    exact isDigit_of_range hrange.1 (Nat.le_trans hrange.2 (by decide))
  · simp at h

/-- What stops a decimal number stops an octal one. -/
theorem ends_octalDigit? {behind : Text} (h : Ends digit? behind) : Ends octalDigit? behind := by
  intro c hc
  by_contra hoctal
  have hdigit := isDigit_of_octalDigit? (Option.isSome_iff_ne_none.2 hoctal)
  have hnone := h c hc
  simp [digit?_of_isDigit hdigit] at hnone

theorem range_of_isDigit {c : Char} (hc : c.isDigit = true) (hzero : c ≠ '0') : '1' ≤ c ∧ c ≤ '9' := by
  have hall : ∀ n < 128, (Char.ofNat n).isDigit = true → Char.ofNat n ≠ '0' →
      ('1' ≤ Char.ofNat n ∧ Char.ofNat n ≤ '9') := by decide +kernel
  exact of_ascii (P := fun c => c.isDigit = true → c ≠ '0' → ('1' ≤ c ∧ c ≤ '9')) hall (ascii_of_isDigit hc) hc hzero

theorem readMagnitude_decimal {c : Char} (hc : c.isDigit = true) (hzero : c ≠ '0') (t : Text) :
    readMagnitude (c :: t) = ofDecimalDigits (leadingDigits digit? (c :: t)) := by
  have hrange : ('1' ≤ c && c ≤ '9') = true := by simpa using range_of_isDigit hc hzero
  rw [readMagnitude]
  · rw [if_pos hrange]
  · rintro _ _ _ rfl
    exact absurd rfl hzero
  · rintro rfl
    exact absurd rfl hzero

/-- A magnitude is not read only if it starts as a decimal number does and goes on for too long. -/
theorem readMagnitude_error {t : Text} {cause : DigitError} (h : readMagnitude t = .error cause) :
    ∃ c rest, t = c :: rest ∧ ('1' ≤ c ∧ c ≤ '9') ∧ ofDecimalDigits (leadingDigits digit? t) = .error cause := by
  unfold readMagnitude at h
  split at h
  · split at h <;> simp at h
  · simp at h
  · next c rest _ _ =>
    split at h
    · next hrange => exact ⟨c, rest, rfl, by simpa using hrange, h⟩
    · simp at h
  · simp at h

/-- Where there is no digit there is no number. -/
theorem readMagnitude_of_no_digit {t : Text} (h : Ends digit? t) : readMagnitude t = .ok 0 := by
  cases t with
  | nil => rfl
  | cons c t =>
    have hc : digit? c = none := h c (by simp)
    have hdigit : ¬ c.isDigit = true := fun hdigit => by simp [digit?_of_isDigit hdigit] at hc
    have hzero : c ≠ '0' := by
      rintro rfl
      exact hdigit rfl
    have hrange : ¬ ('1' ≤ c && c ≤ '9') = true := by
      simp only [Bool.and_eq_true, decide_eq_true_eq]
      exact fun hrange => hdigit (isDigit_of_range (Nat.le_trans (by decide) hrange.1) hrange.2)
    rw [readMagnitude]
    · rw [if_neg hrange]
    · rintro _ _ _ rfl
      exact absurd rfl hzero
    · rintro rfl
      exact absurd rfl hzero

section

variable {n : Nat} {t behind : Text}

theorem magnitude_hex {x : Char} (hx : x = 'x' ∨ x = 'X') (digits : HasDigits hexDigit? 16 n t) (ends : Ends hexDigit? behind) :
    readMagnitude ('0' :: x :: (t ++ behind)) = .ok n := by
  obtain ⟨d, rest, rfl⟩ := List.exists_cons_of_ne_nil digits.ne_nil
  have hd : isHexDigit d = true := digits.isSome (by decide) hexDigit?_digitChar d (by simp)
  rw [List.cons_append, readMagnitude_hex hx hd, ← List.cons_append]
  exact congrArg _ (digits.value (by decide) hexDigit?_digitChar ends)

theorem magnitude_octal (digits : HasDigits octalDigit? 8 n ('0' :: t)) (ends : Ends octalDigit? behind)
    (unmarked : t = [] → ¬ MarksHex behind) : readMagnitude ('0' :: (t ++ behind)) = .ok n := by
  have hmark : ¬ MarksHex (t ++ behind) := by
    cases t with
    | nil => exact unmarked rfl
    | cons c t =>
      rintro ⟨x, d, rest, heq, hx, -⟩
      obtain ⟨rfl, -⟩ := List.cons.inj heq
      have hc := digits.isSome (by decide) octalDigit?_digitChar c (by simp)
      rcases hx with rfl | rfl
      · exact absurd hc (by decide)
      · exact absurd hc (by decide)
  rw [readMagnitude_octal hmark, ← List.cons_append]
  exact congrArg _ (digits.value (by decide) octalDigit?_digitChar ends)

/-- The first digit of a decimal number is a zero if the number is zero, and no other zero has the same look. -/
theorem first_digit_eq_zero_iff {c : Char} (digits : (c :: t).map digit? = (natDecimal n).map digit?) (hc : c.isDigit = true) :
    c = '0' ↔ n = 0 := by
  obtain ⟨e, u, he⟩ := List.exists_cons_of_ne_nil (natDecimal_ne_nil n)
  obtain ⟨d, hd, rfl⟩ : ∃ d < 10, e = Nat.digitChar d :=
    exists_of_mem_toDigits (n := n) (by decide) (by rw [← natDecimal, he]; exact List.mem_cons_self)
  have hvalue : c.toNat - 48 = d := by
    rw [he, List.map_cons, List.map_cons, digit?_of_isDigit hc, digit?_digitChar d hd] at digits
    exact Option.some.inj (List.cons.inj digits).1
  constructor
  · rintro rfl
    by_contra hn
    have hhead := head?_natDecimal (Nat.pos_of_ne_zero hn)
    rw [he, ← hvalue] at hhead
    exact hhead rfl
  · rintro rfl
    obtain rfl : d = 0 := by
      have hzero : Nat.digitChar d = '0' := (List.cons.inj (he.symm.trans (rfl : natDecimal 0 = ['0']))).1
      have hall : ∀ d < 10, Nat.digitChar d = '0' → d = 0 := by decide
      exact hall d hd hzero
    have hall : ∀ n < 128, (Char.ofNat n).isDigit = true → (Char.ofNat n).toNat - 48 = 0 → Char.ofNat n = '0' := by
      decide +kernel
    exact of_ascii (P := fun c => c.isDigit = true → c.toNat - 48 = 0 → c = '0') hall (ascii_of_isDigit hc) hc hvalue

theorem magnitude_decimal (digits : t.map digit? = (natDecimal n).map digit?) (ascii : ∀ c ∈ t.head?, c.isDigit = true)
    (ends : Ends digit? behind) (unmarked : n = 0 → ¬ MarksHex behind) :
    (¬Overlong t → readMagnitude (t ++ behind) = .ok n) ∧
      (Overlong t → readMagnitude (t ++ behind) = .error (.reading t.length)) := by
  have hdigits : HasDigits digit? 10 n t := ⟨0, digits⟩
  have hall := hdigits.isSome (by decide) digit?_digitChar
  obtain ⟨c, rest, rfl⟩ := List.exists_cons_of_ne_nil hdigits.ne_nil
  have hc := ascii c (by simp)
  by_cases hn : n = 0
  · -- a lone zero is an octal number
    obtain rfl : c = '0' := (first_digit_eq_zero_iff digits hc).2 hn
    subst hn
    obtain rfl : rest = [] := by simpa using (List.cons.inj (digits.trans (rfl : _ = [digit? '0']))).2
    exact ⟨fun _ => magnitude_octal ⟨0, rfl⟩ (ends_octalDigit? ends) fun _ => unmarked rfl,
      fun hlong => absurd hlong (not_overlong_zero [])⟩
  · have hzero : c ≠ '0' := fun h => hn ((first_digit_eq_zero_iff digits hc).1 h)
    have hread := hdigits.decimal ends
    rw [List.cons_append, ← readMagnitude_decimal hc hzero, ← List.cons_append] at hread
    refine ⟨fun hshort => ?_, fun hlong => ?_⟩
    · rw [hread, if_neg]
      exact fun hlong => hshort ⟨hall, by simpa using range_of_isDigit hc hzero, hlong⟩
    · rw [hread, if_pos hlong.long]

/-- A number that is written in one of the ways starts with a digit and is read as what it is, if it is not too long. -/
theorem Spelling.magnitude (h : Spelling n behind t) :
    ((¬Overlong t → readMagnitude (t ++ behind) = .ok n) ∧
      (Overlong t → readMagnitude (t ++ behind) = .error (.reading t.length))) ∧
      ∃ c rest, t = c :: rest ∧ isDigit c = true := by
  cases h with
  | decimal digits ascii ends unmarked =>
    have hdigits : HasDigits digit? 10 n t := ⟨0, digits⟩
    have hall := hdigits.isSome (by decide) digit?_digitChar
    obtain ⟨c, rest, rfl⟩ := List.exists_cons_of_ne_nil hdigits.ne_nil
    exact ⟨magnitude_decimal digits ascii ends unmarked, c, rest, rfl, hall c (by simp)⟩
  | hex mark digits ends =>
    exact ⟨⟨fun _ => magnitude_hex mark digits ends, fun hlong => absurd hlong (not_overlong_zero _)⟩, _, _, rfl, by decide⟩
  | octal digits ends unmarked =>
    exact ⟨⟨fun _ => magnitude_octal digits ends unmarked, fun hlong => absurd hlong (not_overlong_zero _)⟩, _, _, rfl,
      by decide⟩

end

/-! ### Typed numbers -/

/-- A text in which a number is typed: blanks and a sign in front, and something behind. -/
inductive Typed (digits behind : Text) : Bool → Text → Prop
  | mk {blanks sign : Text} {negative : Bool} (hblanks : AllBlank blanks) (hsign : Sign negative sign) :
    Typed digits behind negative (blanks ++ (sign ++ (digits ++ behind)))

/-- Blanks and a sign are not followed by a digit. -/
def Numberless (t : Text) : Prop :=
  ∀ c behind negative, Typed [c] behind negative t → isDigit c = false

variable {n : Nat} {digits behind t : Text} {negative : Bool}

theorem Typed.splitSign (h : Typed digits behind negative t) (hdigits : ∃ c rest, digits = c :: rest ∧ isDigit c = true) :
    splitSign (trimStart t) = (negative, digits ++ behind) := by
  obtain ⟨hblanks, hsign⟩ := h
  obtain ⟨c, rest, rfl, hc⟩ := hdigits
  exact splitSign_typed hblanks hsign hc (rest ++ behind)

theorem numberless_iff (t : Text) : Numberless t ↔ Ends digit? (Numeral.splitSign (trimStart t)).2 := by
  constructor
  · obtain ⟨blanks, sign, hblanks, hsign, ht⟩ := exists_typed t
    generalize Numeral.splitSign (trimStart t) = split at hsign ht ⊢
    obtain ⟨negative, rest⟩ := split
    intro h c hc
    cases rest with
    | nil => simp at hc
    | cons d rest =>
      obtain rfl : d = c := by simpa using hc
      subst ht
      simpa [isDigit] using h d rest negative (.mk hblanks hsign)
  · intro h c behind negative htyped
    by_contra hc
    have hdigit : isDigit c = true := by simpa using hc
    rw [htyped.splitSign ⟨c, [], rfl, hdigit⟩] at h
    have hnone : digit? c = none := h c (by simp)
    simp [isDigit, hnone] at hdigit

/-- What the reader of words makes of a magnitude and its sign. -/
theorem readWord_of_split (h : Numeral.splitSign (trimStart t) = (negative, digits)) :
    readWord t = (readMagnitude digits).map fun n : Nat =>
      if n ≥ Word.limit then (Word.limit : Int) - 1 else if negative then Word.wrap (-n) else n := by
  rw [readWord, h]

/-- A typed number is read as the word nearest to it, or with a minus as its negation, which wraps if the number itself is
a word. One that is too long is not read. -/
theorem Spelling.readWord (h : Spelling n behind digits) (htyped : Typed digits behind negative t) :
    (¬Overlong digits →
      (negative = false → readWord t = .ok (min (n : Int) (Word.limit - 1))) ∧
      (negative = true → n < Word.limit → readWord t = .ok (-(n : Int) % Word.limit)) ∧
      (negative = true → Word.limit ≤ n → readWord t = .ok (Word.limit - 1))) ∧
    (Overlong digits → readWord t = .error (.reading digits.length)) := by
  obtain ⟨⟨hshort, hlong⟩, hdigits⟩ := h.magnitude
  have hread := readWord_of_split (htyped.splitSign hdigits)
  refine ⟨fun hno => ?_, fun hyes => by rw [hread, hlong hyes]; rfl⟩
  have hvalue : Numeral.readWord t = .ok (if n ≥ Word.limit then (Word.limit : Int) - 1 else
      if negative then Word.wrap (-n) else n) := by
    rw [hread, hshort hno]
    rfl
  rw [hvalue]
  refine ⟨?_, ?_, ?_⟩
  · rintro rfl
    rw [if_neg Bool.false_ne_true]
    split
    · exact congrArg _ (by omega)
    · exact congrArg _ (by omega)
  · rintro rfl hlt
    rw [if_neg (Nat.not_le.2 hlt), if_pos rfl, Word.wrap]
  · rintro rfl hle
    rw [if_pos hle]

theorem HasDigits.readDecimal (h : HasDigits digit? 10 n digits) (hends : Ends digit? behind)
    (htyped : Typed digits behind negative t) :
    readDecimal t =
      if digitLimit < digits.length then .error (.reading digits.length) else .ok (if negative then -(n : Int) else n) := by
  have hall := h.isSome (by decide) digit?_digitChar
  have hread := h.decimal hends
  obtain ⟨c, rest, rfl⟩ := List.exists_cons_of_ne_nil h.ne_nil
  rw [Numeral.readDecimal, htyped.splitSign ⟨c, rest, rfl, hall c (by simp)⟩]
  dsimp only
  rw [hread]
  by_cases hlong : digitLimit < (c :: rest).length
  · rw [if_pos hlong, if_pos hlong]
    rfl
  · rw [if_neg hlong, if_neg hlong]
    rfl

theorem Numberless.read (h : Numberless t) : readDecimal t = .ok 0 ∧ readWord t = .ok 0 := by
  have hends := (numberless_iff t).1 h
  have hnone : leadingDigits digit? (Numeral.splitSign (trimStart t)).2 = [] := by
    simpa [leadingDigits] using leadingDigits_append_of_ends (t := []) (by simp) hends
  constructor
  · rw [readDecimal]
    dsimp only
    rw [hnone, ofDecimalDigits_of_le (Nat.zero_le _)]
    simp [Except.map, ofDigits]
  · have hlimit : ¬ 0 ≥ Word.limit := by decide
    rw [readWord_of_split (Prod.eta _).symm, readMagnitude_of_no_digit hends, Except.map, if_neg hlimit]
    split <;> rfl

/-- Every text is read as a word, unless too long a decimal number is typed in it. -/
theorem readWord_total (t : Text) :
    (∃ v, readWord t = .ok v ∧ 0 ≤ v ∧ v < Word.limit) ∨
      ∃ digits behind negative, Typed digits behind negative t ∧ Ends digit? behind ∧ Overlong digits ∧
        readWord t = .error (.reading digits.length) := by
  cases hread : readWord t with
  | ok v => exact .inl ⟨v, rfl, fits_of_readWord hread⟩
  | error cause =>
    obtain ⟨blanks, sign, hblanks, hsign, ht⟩ := exists_typed t
    rw [readWord_of_split (Prod.eta _).symm] at hread
    generalize Numeral.splitSign (trimStart t) = split at hsign ht hread
    obtain ⟨negative, rest⟩ := split
    cases hmagnitude : readMagnitude rest with
    | ok n => simp [hmagnitude, Except.map] at hread
    | error other =>
      rw [hmagnitude] at hread
      obtain rfl := Except.error.inj hread
      obtain ⟨c, behind, rfl, hfirst, hdigits⟩ := readMagnitude_error hmagnitude
      have hc : isDigit c = true := by
        rw [isDigit, digit?_of_isDigit (isDigit_of_range (Nat.le_trans (by decide) hfirst.1) hfirst.2)]
        rfl
      unfold ofDecimalDigits at hdigits
      rw [length_leadingDigits] at hdigits
      split at hdigits
      · next hlong =>
        obtain rfl := Except.error.inj hdigits
        refine .inr ⟨(c :: behind).takeWhile isDigit, (c :: behind).dropWhile isDigit, negative, ?_, ends_dropWhile _,
          ⟨fun d hd => List.mem_takeWhile_imp hd, ?_, hlong⟩, rfl⟩
        · rw [ht]
          have htyped : Typed ((c :: behind).takeWhile isDigit) ((c :: behind).dropWhile isDigit) negative _ := .mk hblanks hsign
          rwa [List.takeWhile_append_dropWhile] at htyped
        · rw [List.takeWhile_cons_of_pos hc]
          simpa using hfirst
      · simp at hdigits

/-- The reader of words gives a word for every text that holds no decimal number of too many digits. A typed number in
decimal, hexadecimal or octal, with blanks and a sign in front and anything behind that does not go on with it, is read as
itself, as the greatest word if it is larger, and with a minus as its negation modulo the number of words, unless it is
larger. The reader of integers takes a decimal number, with zeros in front or not, for what it is. To both a decimal number
of too many digits is an error, which counts them. Both find zero where blanks and a sign are not followed by a digit. -/
theorem typed_numbers_are_read (t : Text) :
    ((∃ v, readWord t = .ok v ∧ 0 ≤ v ∧ v < Word.limit) ∨
      ∃ digits behind negative, Typed digits behind negative t ∧ Ends digit? behind ∧ Overlong digits ∧
        readWord t = .error (.reading digits.length)) ∧
    (∀ n digits behind negative, Spelling n behind digits → Typed digits behind negative t →
      (¬Overlong digits →
        (negative = false → readWord t = .ok (min (n : Int) (Word.limit - 1))) ∧
        (negative = true → n < Word.limit → readWord t = .ok (-(n : Int) % Word.limit)) ∧
        (negative = true → Word.limit ≤ n → readWord t = .ok (Word.limit - 1))) ∧
      (Overlong digits → readWord t = .error (.reading digits.length))) ∧
    (∀ n digits behind negative, HasDigits digit? 10 n digits → Ends digit? behind → Typed digits behind negative t →
      readDecimal t =
        if digitLimit < digits.length then .error (.reading digits.length) else .ok (if negative then -(n : Int) else n)) ∧
    (Numberless t → readDecimal t = .ok 0 ∧ readWord t = .ok 0) :=
  ⟨readWord_total t, fun _ _ _ _ h htyped => h.readWord htyped, fun _ _ _ _ h hends htyped => h.readDecimal hends htyped,
    fun h => h.read⟩

/-- A negative number in hexadecimal, one that is too large for its sign to count, an octal one in front of a digit that is
none of it, a decimal one in the digits of two scripts with a zero in front, and none. -/
theorem odd_numbers_are_read :
    Spelling 255 "g" "0X0fF" ∧ readWord "\t -0X0fFg" = .ok (2 ^ 64 - 255) ∧
      Spelling (2 ^ 64) "" "18446744073709551616" ∧ readWord "-18446744073709551616" = .ok (2 ^ 64 - 1) ∧
      Spelling 15 "8" "017" ∧ readWord "0178" = .ok 15 ∧ HasDigits digit? 10 42 "04\u0662" ∧
      readDecimal "+04\u0662." = .ok 42 ∧ Numberless "+ 5" ∧ readWord "+ 5" = .ok 0 := by
  have hblank : AllBlank "\t " := by
    unfold AllBlank
    decide
  have hempty : AllBlank [] := fun _ h => absurd h List.not_mem_nil
  have hhex : Spelling 255 "g" "0X0fF" := .hex (.inr rfl) ⟨1, by decide⟩ (by unfold Ends; decide)
  have hlarge : Spelling (2 ^ 64) "" "18446744073709551616" :=
    .decimal (by decide) (by decide) (by unfold Ends; decide) fun h => absurd h (by decide)
  have hoctal : Spelling 15 "8" "017" := .octal ⟨1, by decide⟩ (by unfold Ends; decide) fun h => absurd h (by decide)
  have hdigits : HasDigits digit? 10 42 "04\u0662" := ⟨1, by decide⟩
  have hends : Ends digit? "." := by
    unfold Ends
    decide
  have hnumberless : Numberless "+ 5" := (numberless_iff _).2 (by unfold Ends; decide)
  have hshort : ¬Overlong "18446744073709551616" := fun h => absurd h.long (by decide)
  refine ⟨hhex, ?_, hlarge, ?_, hoctal, ?_, hdigits, ?_, hnumberless, ((typed_numbers_are_read _).2.2.2 hnumberless).2⟩
  · exact (((typed_numbers_are_read _).2.1 255 _ _ true hhex (.mk hblank .minus)).1 (not_overlong_zero _)).2.1 rfl (by decide)
  · exact (((typed_numbers_are_read _).2.1 (2 ^ 64) _ _ true hlarge (.mk hempty .minus)).1 hshort).2.2 rfl (by decide)
  · exact (((typed_numbers_are_read _).2.1 15 _ _ false hoctal (.mk hempty .none)).1 (not_overlong_zero _)).1 rfl
  · exact (typed_numbers_are_read _).2.2.1 42 _ "." false hdigits hends (.mk hempty .plus)

end Stepper.Numeral
