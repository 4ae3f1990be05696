import Stepper.Proofs.Asm.Source
import Stepper.Proofs.Numeral.Limit

/-! Written integers of operands: a number sign and a minus, both of them optional, and the digits. Lower case
keeps the value, and neither the names of registers nor those of labels are found in them. -/

namespace Stepper.Unicode

theorem isDigit_cases {c : Char} (h : isDigit c = true) :
    c.toNat < 128 ∨ ∃ r ∈ digitTable, r.1 ≤ c.toNat ∧ c.toNat ≤ r.2 := by
  by_cases hc : c.toNat < 128
  · exact .inl hc
  · rw [isDigit, digit?, if_neg hc, Option.isSome_map, List.find?_isSome] at h
    obtain ⟨r, hr, hin⟩ := h
    exact .inr ⟨r, hr, by simpa using hin⟩

/-- A digit has no other lower case. -/
theorem lowerChar_of_isDigit {c : Char} (h : isDigit c = true) : lowerChar c = [c] ∧ c.toNat ≠ 0x3A3 := by
  rcases isDigit_cases h with hc | ⟨r, hr, h1, h2⟩
  · refine ⟨?_, by omega⟩
    exact of_ascii (P := fun c => isDigit c = true → lowerChar c = [c]) (by decide +kernel) hc h
  · have hbounds : ∀ r ∈ digitTable, 128 ≤ r.1 ∧ ¬ (r.1 ≤ 0x130 ∧ 0x130 ≤ r.2) ∧ ¬ (r.1 ≤ 0x3A3 ∧ 0x3A3 ≤ r.2) := by
      decide +kernel
    have hapart : ∀ r ∈ digitTable, ∀ s ∈ lowerRuns, r.2 < s.first ∨ s.last < r.1 := by decide +kernel
    obtain ⟨hlow, hdot, hsigma⟩ := hbounds r hr
    have hfind : lowerRuns.find? (·.holds c.toNat) = none := by
      rw [List.find?_eq_none]
      intro s hs hh
      simp only [CaseRun.holds, Bool.and_eq_true, decide_eq_true_eq] at hh
      have := hapart r hr s hs
      omega
    have hascii : ¬ c.toNat < 128 := by omega
    have hspecial : ¬ c.toNat = 0x130 := by omega
    exact ⟨by rw [lowerChar, if_neg hascii, if_neg hspecial, moveCase, hfind, Char.ofNat_toNat], by omega⟩

/-- A text in front that has no other lower case stays as it is. -/
theorem lowerAfter_append_of_fixed {a : Text} (ha : ∀ c ∈ a, lowerChar c = [c] ∧ c.toNat ≠ 0x3A3) (seen b : Text) :
    lowerAfter seen (a ++ b) = a ++ lowerAfter (a.reverse ++ seen) b := by
  induction a generalizing seen with
  | nil => rfl
  | cons c a ih =>
    obtain ⟨hlower, hsigma⟩ := ha c (by simp)
    have hsigma : ¬ c.toNat = 0x3A3 := hsigma
    rw [List.cons_append, lowerAfter, ih fun d hd => ha d (by simp [hd])]
    simp [hsigma, hlower]

theorem lowerAfter_of_fixed {a : Text} (ha : ∀ c ∈ a, lowerChar c = [c] ∧ c.toNat ≠ 0x3A3) (seen : Text) :
    lowerAfter seen a = a := by
  have := lowerAfter_append_of_fixed ha seen []
  simpa [lowerAfter] using this

end Stepper.Unicode

namespace Stepper.Asm

open Numeral Text Unicode

/-! ### How many digits there are -/

namespace Digits

/-- The integer that the digits stand for, however many they are. -/
def number (d : Digits) : Int :=
  if d.negative then -(ofDigits d.base d.digits : Int) else ofDigits d.base d.digits

/-- There are more decimal digits than can be read. -/
def TooMany (d : Digits) : Prop :=
  d.base = 10 ∧ digitLimit < d.digits.length

variable {d : Digits}

theorem value_of_tooMany (h : d.TooMany) : d.value = .error (.reading d.digits.length) := by
  rw [value, if_pos h.1, ofDecimalDigits_of_lt h.2]
  rfl

theorem value_of_not_tooMany (h : ¬d.TooMany) : d.value = .ok d.number := by
  have hread : (if d.base = 10 then ofDecimalDigits d.digits else .ok (ofDigits d.base d.digits)) =
      .ok (ofDigits d.base d.digits) := by
    split
    · next hten =>
      have hle : d.digits.length ≤ digitLimit := Nat.le_of_not_lt fun hlt => h ⟨hten, hlt⟩
      rw [ofDecimalDigits_of_le hle, hten]
    · rfl
  rw [value, hread]
  rfl

theorem value_eq_error_iff {cause : DigitError} : d.value = .error cause ↔ d.TooMany ∧ cause = .reading d.digits.length := by
  by_cases h : d.TooMany
  · simp [value_of_tooMany h, h, eq_comm]
  · simp [value_of_not_tooMany h, h]

end Digits

/-- The digits of a number, as they are written and by what they are worth in their base. -/
inductive Magnitude : Text → Nat → List Nat → Prop
  | hex {ds : Text} (ne : ds ≠ []) (digits : ∀ c ∈ ds, isHexDigit c = true) :
    Magnitude ('0' :: 'x' :: ds) 16 (leadingDigits hexDigit? ds)
  | decimal {ds : Text} (ne : ds ≠ []) (digits : ∀ c ∈ ds, isDigit c = true) :
    Magnitude ds 10 (leadingDigits digit? ds)

theorem magnitude?_eq_some_iff {negative : Bool} {t : Text} {d : Digits} :
    magnitude? negative t = some d ↔ d.negative = negative ∧ Magnitude t d.base d.digits := by
  constructor
  · intro h
    unfold magnitude? at h
    split at h
    · next c rest =>
      split at h
      · next hall =>
        rw [← Option.some.inj h]
        exact ⟨rfl, .hex (by simp) fun c hc => List.all_eq_true.1 hall c hc⟩
      · simp at h
    · simp at h
    · next _ _ hne =>
      split at h
      · next hall =>
        rw [← Option.some.inj h]
        exact ⟨rfl, .decimal hne fun c hc => List.all_eq_true.1 hall c hc⟩
      · simp at h
  · obtain ⟨sign, base, digits⟩ := d
    rintro ⟨rfl, h⟩
    cases h with
    | @hex ds ne digits =>
      obtain ⟨c, rest, rfl⟩ := List.exists_cons_of_ne_nil ne
      have hall : (c :: rest).all isHexDigit = true := List.all_eq_true.2 digits
      rw [magnitude?, if_pos hall]
    | decimal ne digits =>
      have hall : t.all isDigit = true := List.all_eq_true.2 digits
      unfold magnitude?
      split
      · exact absurd (digits 'x' (by simp)) (by decide)
      · exact absurd rfl ne
      · rw [if_pos hall]

section

variable {t : Text} {base : Nat} {digits : List Nat}

theorem Magnitude.head (h : Magnitude t base digits) : ∃ c rest, t = c :: rest ∧ isDigit c = true := by
  cases h with
  | hex ne digits => exact ⟨'0', _, rfl, by decide⟩
  | decimal ne digits =>
    obtain ⟨c, rest, rfl⟩ := List.exists_cons_of_ne_nil ne
    exact ⟨c, rest, rfl, digits c (by simp)⟩

theorem Magnitude.negatable? (h : Magnitude t base digits) : negatable? t = some ⟨false, base, digits⟩ := by
  obtain ⟨c, rest, rfl, hc⟩ := h.head
  have hminus : c ≠ '-' := by
    rintro rfl
    exact absurd hc (by decide)
  unfold Asm.negatable?
  split
  · next heq => exact absurd (List.cons.inj heq).1 hminus
  · exact magnitude?_eq_some_iff.2 ⟨rfl, h⟩

end

/-- An integer as an operand writes it. -/
structure WrittenInt (t : Text) (d : Digits) : Prop where
  shape : ∃ front digits, front ∈ [[], ['#'], ['-'], ['#', '-']] ∧ t = front ++ digits ∧
    Magnitude digits d.base d.digits ∧ d.negative = decide ('-' ∈ front)

theorem writtenInt_of_negatable? {t : Text} {d : Digits} (h : negatable? t = some d) (hash : Bool) :
    WrittenInt (if hash then '#' :: t else t) d := by
  unfold negatable? at h
  split at h
  · next rest =>
    obtain ⟨hnegative, hdigits⟩ := magnitude?_eq_some_iff.1 h
    cases hash with
    | true => exact ⟨['#', '-'], rest, by simp, rfl, hdigits, hnegative⟩
    | false => exact ⟨['-'], rest, by simp, rfl, hdigits, hnegative⟩
  · obtain ⟨hnegative, hdigits⟩ := magnitude?_eq_some_iff.1 h
    cases hash with
    | true => exact ⟨['#'], t, by simp, rfl, hdigits, hnegative⟩
    | false => exact ⟨[], t, by simp, rfl, hdigits, hnegative⟩

theorem WrittenInt.stopless {t : Text} {d : Digits} (h : WrittenInt t d) : t ≠ [] ∧ Stopless t := by
  obtain ⟨front, digits, hfront, rfl, hdigits, -⟩ := h.shape
  have hs := solid_of_negatable? (t := digits) (by rw [hdigits.negatable?]; rfl)
  refine ⟨by simp [hs.1], Stopless.append ?_ hs.2⟩
  simp only [List.mem_cons, List.not_mem_nil, or_false] at hfront
  rcases hfront with rfl | rfl | rfl | rfl
  all_goals
    unfold Stopless
    decide

theorem immediateDigits?_eq_some_iff {t : Text} {d : Digits} :
    immediateDigits? t = some d ↔ WrittenInt (trim t) d := by
  constructor
  · intro h
    unfold immediateDigits? at h
    split at h
    · next rest heq =>
      rw [heq]
      exact writtenInt_of_negatable? h true
    · exact writtenInt_of_negatable? h false
  · obtain ⟨sign, base, ds⟩ := d
    rintro ⟨front, digits, hfront, ht, hdigits, hsign⟩
    obtain ⟨c, rest, rfl, hc⟩ := hdigits.head
    have hmag : magnitude? true (c :: rest) = some ⟨true, base, ds⟩ := magnitude?_eq_some_iff.2 ⟨rfl, hdigits⟩
    have hneg := hdigits.negatable?
    have hhash : c ≠ '#' := by
      rintro rfl
      exact absurd hc (by decide)
    change sign = _ at hsign
    subst hsign
    simp only [List.mem_cons, List.not_mem_nil, or_false] at hfront
    rcases hfront with rfl | rfl | rfl | rfl
    · unfold immediateDigits?
      rw [ht]
      split
      · next heq => exact absurd (List.cons.inj heq).1 hhash
      · simpa using hneg
    · simpa [immediateDigits?, ht] using hneg
    · simpa [immediateDigits?, ht, negatable?] using hmag
    · simpa [immediateDigits?, ht, negatable?] using hmag

theorem hexDigit?_toLower {c : Char} (h : isHexDigit c = true) : hexDigit? c.toLower = hexDigit? c ∧ c.toNat < 128 := by
  have hlt : c.toNat < 128 := by
    unfold isHexDigit hexDigit? at h
    split at h
    · next hd => exact ascii_of_isDigit hd
    · split at h
      · next hd =>
        simp only [Bool.and_eq_true, decide_eq_true_eq] at hd
        exact lt_of_le_of_lt hd.2 (by decide)
      · split at h
        · next hd =>
          simp only [Bool.and_eq_true, decide_eq_true_eq] at hd
          exact lt_of_le_of_lt hd.2 (by decide)
        · simp at h
  exact ⟨of_ascii (P := fun c => isHexDigit c = true → hexDigit? c.toLower = hexDigit? c) (by decide +kernel) hlt h, hlt⟩

theorem Magnitude.lowerAfter {t : Text} {base : Nat} {digits : List Nat} (h : Magnitude t base digits) (seen : Text) :
    Magnitude (lowerAfter seen t) base digits := by
  cases h with
  | @hex ds ne digits =>
    have hascii : ∀ c ∈ '0' :: 'x' :: ds, c.toNat < 128 := by
      intro c hc
      rcases List.mem_cons.1 hc with rfl | hc
      · decide
      · rcases List.mem_cons.1 hc with rfl | hc
        · decide
        · exact (hexDigit?_toLower (digits c hc)).2
    have hvalue := leadingDigits_map (f := Char.toLower) fun c hc => (hexDigit?_toLower (digits c hc)).1
    rw [lowerAfter_of_ascii hascii, ← hvalue]
    refine .hex (by simp [ne]) fun d hd => ?_
    obtain ⟨c, hc, rfl⟩ := List.mem_map.1 hd
    rw [isHexDigit, (hexDigit?_toLower (digits c hc)).1]
    exact digits c hc
  | decimal ne digits =>
    rw [lowerAfter_of_fixed fun c hc => lowerChar_of_isDigit (digits c hc)]
    exact .decimal ne digits

theorem WrittenInt.lower {t : Text} {d : Digits} (h : WrittenInt t d) : WrittenInt (lower t) d := by
  obtain ⟨front, digits, hfront, rfl, hdigits, hsign⟩ := h.shape
  have hfixed : ∀ f ∈ [[], ['#'], ['-'], ['#', '-']], ∀ c ∈ f, lowerChar c = [c] ∧ c.toNat ≠ 0x3A3 := by decide
  refine ⟨front, lowerAfter (front.reverse ++ []) digits, hfront, ?_, hdigits.lowerAfter _, hsign⟩
  exact lowerAfter_append_of_fixed (hfixed front hfront) [] digits

namespace Source

theorem renameRegisters_of_notMem {t : Text} (h : 'r' ∉ t) (inWord : Bool) : renameRegisters inWord t = t := by
  induction t generalizing inWord with
  | nil => rfl
  | cons c t ih =>
    have hc : c ≠ 'r' := fun h0 => h (by simp [h0])
    simp [renameRegisters, hc, ih fun h0 => h (by simp [h0])]

theorem renameRegisters_of_not_isDigit {t : Text} (h : ∀ c ∈ t, isDigit c = false) (inWord : Bool) :
    renameRegisters inWord t = t := by
  induction t generalizing inWord with
  | nil => rfl
  | cons c t ih =>
    have hdigits : t.takeWhile isDigit = [] := by
      cases t with
      | nil => rfl
      | cons d t => simp [h d (by simp)]
    simp [renameRegisters, hdigits, ih fun d hd => h d (by simp [hd])]

theorem replaceName_cons_of_not_start {name : Text} (hn : LabelName name) (value : Text) {c : Char}
    (hc : isNameStart c = false) (before : Option Char) (t : Text) :
    replaceName name value before 0 (c :: t) = c :: replaceName name value (some c) 0 t := by
  obtain ⟨d, rest, rfl, hd⟩ := hn.start
  have hdc : d ≠ c := by
    rintro rfl
    simp [hd] at hc
  simp [replaceName, List.isPrefixOf, hdc]

/-- Inside of a word no name stands on its own. -/
theorem replaceName_inside {name value : Text} {c : Char} (hc : joinsName c = true) {t : Text}
    (ht : ∀ d ∈ t, joinsName d = true) : replaceName name value (some c) 0 t = t := by
  induction t generalizing c with
  | nil => rfl
  | cons d t ih =>
    simp [replaceName, startsBare, hc, ih (ht d (by simp)) fun e he => ht e (by simp [he])]

theorem joinsName_of_isHexDigit {c : Char} (h : isHexDigit c = true) : joinsName c = true :=
  of_ascii (P := fun c => isHexDigit c = true → joinsName c = true) (by decide +kernel) (hexDigit?_toLower h).2 h

theorem not_isNameStart_of_isDigit {c : Char} (h : isDigit c = true) : isNameStart c = false := by
  by_contra hs
  have hs : isNameStart c = true := by simpa using hs
  have hlt := ascii_of_isNameChar (isNameChar_of_isNameStart hs)
  exact of_ascii (P := fun c => isDigit c = true → ¬ isNameStart c = true) (by decide +kernel) hlt h hs

theorem replaceName_magnitude {name : Text} (hn : LabelName name) (value : Text) {t : Text} {base : Nat}
    {digits : List Nat} (h : Magnitude t base digits) (before : Option Char) : replaceName name value before 0 t = t := by
  cases h with
  | hex ne digits =>
    rw [replaceName_cons_of_not_start hn value (by decide), replaceName_inside (by decide)]
    intro c hc
    rcases List.mem_cons.1 hc with rfl | hc
    · decide
    · exact joinsName_of_isHexDigit (digits c hc)
  | decimal ne digits =>
    clear ne
    induction t generalizing before with
    | nil => rfl
    | cons c t ih =>
      rw [replaceName_cons_of_not_start hn value (not_isNameStart_of_isDigit (digits c (by simp))),
        ih _ fun d hd => digits d (by simp [hd])]

theorem replaceName_writtenInt {name : Text} (hn : LabelName name) (value : Text) {t : Text} {d : Digits}
    (h : WrittenInt t d) : replaceName name value none 0 t = t := by
  obtain ⟨front, digits, hfront, rfl, hdigits, -⟩ := h.shape
  have hstart : ∀ f ∈ [[], ['#'], ['-'], ['#', '-']], ∀ c ∈ f, isNameStart c = false := by decide
  have hnone := hstart front hfront
  clear h hstart hfront
  generalize (none : Option Char) = before
  induction front generalizing before with
  | nil => exact replaceName_magnitude hn value hdigits before
  | cons c front ih =>
    rw [List.cons_append, replaceName_cons_of_not_start hn value (hnone c (by simp)), ih fun d hd => hnone d (by simp [hd])]

/-- An address that stands for a label is a written integer, and however long it is it can be read. -/
theorem writtenInt_shown {v : Int} (h : 0 ≤ v) : ∃ d, WrittenInt (shown v) d ∧ d.value = .ok v := by
  obtain ⟨n, rfl⟩ := Int.eq_ofNat_of_zero_le h
  have hm := Magnitude.hex (natHex_ne_nil n) fun c hc => isHexDigit_of_mem_natHex hc
  refine ⟨⟨false, 16, leadingDigits hexDigit? (natHex n)⟩, ⟨[], _, by simp, shown_ofNat n, hm, by simp⟩, ?_⟩
  simp [Digits.value, Except.map, ofDigits_natHex]

theorem resolve_writtenInt {base : Int} {labels : List (Text × Nat)} (hl : Named labels) {t : Text} {d : Digits}
    (h : WrittenInt t d) : resolve base labels t = t := by
  unfold resolve
  induction labels with
  | nil => rfl
  | cons l labels ih =>
    rw [List.foldl_cons, replaceName_writtenInt (hl l (by simp)) _ h]
    exact ih fun m hm => hl m (by simp [hm])

end Source

end Stepper.Asm
