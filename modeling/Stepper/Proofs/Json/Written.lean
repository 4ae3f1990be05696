import Stepper.Json.Basic
import Stepper.Proofs.Files.Utf8
import Stepper.Proofs.Numeral.Hex
import Stepper.Proofs.Numeral.Limit

/-! Written JSON reads back. An escaped string is read as the string, a written number as the number, and so an object
that is written flat, with no name twice, is read as the object. -/

namespace Stepper.Json

open Numeral

/-! ### Strings -/

section

variable {start position n high low : Nat} {a b c d e f g h : Char} {rest : Text}

theorem single?_of_isValidChar (hn : n.isValidChar) :
    isHighSurrogate n = false ∧ single? n = some (Char.ofNat n) := by
  have hhigh : isHighSurrogate n = false := by
    simp only [isHighSurrogate, Bool.and_eq_false_iff, decide_eq_false_iff_not]
    unfold Nat.isValidChar at hn
    omega
  have hlow : isLowSurrogate n = false := by
    simp only [isLowSurrogate, Bool.and_eq_false_iff, decide_eq_false_iff_not]
    unfold Nat.isValidChar at hn
    omega
  exact ⟨hhigh, by simp [single?, hhigh, hlow]⟩

theorem readString_unit (hrest : rest ≠ []) (hunit : unit? a b c d = some n) (hn : n.isValidChar) :
    readString start position ('\\' :: 'u' :: a :: b :: c :: d :: rest) =
      (readString start (position + 6) rest).map (behind (some (Char.ofNat n))) := by
  obtain ⟨hhigh, hsingle⟩ := single?_of_isValidChar hn
  by_cases hpair : ∃ e f g h next tail, rest = '\\' :: 'u' :: e :: f :: g :: h :: next :: tail
  · -- what follows is an escape as well, but no second half of this one
    obtain ⟨e, f, g, h, next, tail, rfl⟩ := hpair
    rw [readString.eq_3, hunit]
    simp only [hhigh, hsingle, Bool.false_eq_true, if_false]
  · obtain ⟨next, tail, rfl⟩ := List.exists_cons_of_ne_nil hrest
    rw [readString.eq_4, hunit]
    · simp only [hsingle]
    intro e f g h next' tail' hnext htail
    exact hpair ⟨e, f, g, h, next', tail', by rw [hnext, htail]⟩

theorem readString_pair (hrest : rest ≠ []) (hhigh : unit? a b c d = some high) (hh : isHighSurrogate high = true)
    (hlow : unit? e f g h = some low) (hl : isLowSurrogate low = true) :
    readString start position ('\\' :: 'u' :: a :: b :: c :: d :: '\\' :: 'u' :: e :: f :: g :: h :: rest) =
      (readString start (position + 12) rest).map (behind (joinSurrogates high low)) := by
  obtain ⟨next, tail, rfl⟩ := List.exists_cons_of_ne_nil hrest
  rw [readString.eq_3, hhigh]
  simp only [hh, hlow, hl, if_true]

theorem readString_escaped {x : Char} (hx : escaped? c = some x) :
    readString start position ('\\' :: c :: rest) =
      (readString start (position + 2) rest).map (behind (some x)) := by
  have hu : c ≠ 'u' := by
    rintro rfl
    simp [escaped?] at hx
  rw [readString.eq_7 _ _ _ _ (by simp [hu]) (by simp [hu]) (by simp [hu]), hx]

theorem readString_plain (hquote : c ≠ '"') (hslash : c ≠ '\\') (hc : 32 ≤ c.toNat) :
    readString start position (c :: rest) = (readString start (position + 1) rest).map (behind (some c)) := by
  rw [readString.eq_8 _ _ _ _ (by simp [hquote]) (by simp [hslash]) (by simp [hslash]) (by simp [hslash])
    (by simp [hslash]) (by simp [hslash]), if_neg (by omega)]

/-- Four hexadecimal digits are read as the number below 2^16 that they are written for. -/
theorem exists_escapeUnit (hn : n < 0x10000) :
    ∃ a b c d, escapeUnit n = ['\\', 'u', a, b, c, d] ∧ unit? a b c d = some n := by
  have hfit : (natHex n).length ≤ 4 := (Nat.length_toDigits_le_iff (by decide) (by decide)).2 hn
  have hlength : (padTo 4 (natHex n)).length = 4 := by
    rw [padTo, List.length_append, List.length_replicate]
    omega
  obtain ⟨a, b, c, d, habcd⟩ : ∃ a b c d, padTo 4 (natHex n) = [a, b, c, d] := by
    rcases hdigits : padTo 4 (natHex n) with _ | ⟨a, _ | ⟨b, _ | ⟨c, _ | ⟨d, _ | _⟩⟩⟩⟩ <;> simp [hdigits] at hlength
    exact ⟨a, b, c, d, rfl⟩
  refine ⟨a, b, c, d, by rw [escapeUnit, habcd]; rfl, ?_⟩
  have hall : ([a, b, c, d].all isHexDigit) = true := by
    rw [← habcd, List.all_eq_true]
    exact fun x hx => isHexDigit_of_mem_padTo hx
  rw [unit?, if_pos hall, ← habcd, ofDigits_padTo]

theorem escapeChar_eq (c : Char) :
    (∃ x, escaped? x = some c ∧ escapeChar c = ['\\', x]) ∨
    (c ≠ '"' ∧ c ≠ '\\' ∧ 32 ≤ c.toNat ∧ escapeChar c = [c]) ∨
    (c.toNat < 0x10000 ∧ escapeChar c = escapeUnit c.toNat) ∨
    (0x10000 ≤ c.toNat ∧ escapeChar c = escapeUnit (0xD800 + (c.toNat - 0x10000) / 0x400) ++
      escapeUnit (0xDC00 + (c.toNat - 0x10000) % 0x400)) := by
  have hcode : ∀ n, n.isValidChar → c.toNat = n → Char.ofNat n = c := by
    rintro n - rfl
    exact Char.ofNat_toNat c
  generalize hescape : escapeChar c = text
  unfold escapeChar at hescape
  split_ifs at hescape with hquote hslash hfeed hreturn htab hpage hback hplain hunit
  · exact .inl ⟨'"', congrArg some hquote.symm, hescape.symm⟩
  · exact .inl ⟨'\\', congrArg some hslash.symm, hescape.symm⟩
  · exact .inl ⟨'n', congrArg some hfeed.symm, hescape.symm⟩
  · exact .inl ⟨'r', congrArg some hreturn.symm, hescape.symm⟩
  · exact .inl ⟨'t', congrArg some htab.symm, hescape.symm⟩
  · exact .inl ⟨'f', congrArg some (hcode 12 (by decide) hpage), hescape.symm⟩
  · exact .inl ⟨'b', congrArg some (hcode 8 (by decide) hback), hescape.symm⟩
  · exact .inr (.inl ⟨hquote, hslash, of_decide_eq_true (Bool.and_eq_true_iff.1 hplain).1, hescape.symm⟩)
  · exact .inr (.inr (.inl ⟨hunit, hescape.symm⟩))
  · exact .inr (.inr (.inr ⟨by omega, hescape.symm⟩))

/-- Behind an escaped character the rest of the string is read. -/
theorem readString_escapeChar (start position : Nat) (c : Char) (hrest : rest ≠ []) :
    readString start position (escapeChar c ++ rest) =
      (readString start (position + (escapeChar c).length) rest).map (behind (some c)) := by
  have hvalid := Utf8.toNat_valid c
  rcases escapeChar_eq c with ⟨x, hx, heq⟩ | ⟨hquote, hslash, hc, heq⟩ | ⟨hc, heq⟩ | ⟨hc, heq⟩
  · rw [heq]
    exact readString_escaped hx
  · rw [heq]
    exact readString_plain hquote hslash hc
  · obtain ⟨a, b, e, d, hunit, hread⟩ := exists_escapeUnit hc
    rw [heq, hunit]
    exact (readString_unit hrest hread c.valid).trans (by rw [Char.ofNat_toNat]; rfl)
  · -- the upper and the lower ten bits of what is left
    obtain ⟨a, b, e, d, hfirst, hhigh⟩ := exists_escapeUnit (n := 0xD800 + (c.toNat - 0x10000) / 0x400) (by omega)
    obtain ⟨f, g, h, i, hsecond, hlow⟩ := exists_escapeUnit (n := 0xDC00 + (c.toNat - 0x10000) % 0x400) (by omega)
    have hh : isHighSurrogate (0xD800 + (c.toNat - 0x10000) / 0x400) = true := by
      simp only [isHighSurrogate, Bool.and_eq_true, decide_eq_true_eq]
      omega
    have hl : isLowSurrogate (0xDC00 + (c.toNat - 0x10000) % 0x400) = true := by
      simp only [isLowSurrogate, Bool.and_eq_true, decide_eq_true_eq]
      omega
    have hjoin : joinSurrogates (0xD800 + (c.toNat - 0x10000) / 0x400) (0xDC00 + (c.toNat - 0x10000) % 0x400) = c := by
      rw [joinSurrogates, show 0x10000 + (0xD800 + (c.toNat - 0x10000) / 0x400 - 0xD800) * 0x400 +
        (0xDC00 + (c.toNat - 0x10000) % 0x400 - 0xDC00) = c.toNat by omega, Char.ofNat_toNat]
    rw [heq, hfirst, hsecond]
    exact (readString_pair hrest hhigh hh hlow hl).trans (by rw [hjoin]; rfl)

end

/-- A quoted string is read up to the quote behind it. -/
theorem readString_quoted (start position : Nat) (t rest : Text) :
    readString start position (t.flatMap escapeChar ++ '"' :: rest) =
      .ok (some t, position + (t.flatMap escapeChar).length + 1) := by
  induction t generalizing position with
  | nil => rw [List.flatMap_nil, List.nil_append, readString.eq_2]; rfl
  | cons c t ih =>
    rw [List.flatMap_cons, List.append_assoc, readString_escapeChar _ _ _ (by simp), ih, List.length_append]
    simp [Except.map, behind, Nat.add_assoc]

/-! ### Tokens -/

/-- What may stand behind a value in a flat object. -/
def Parted (rest : Text) : Prop :=
  rest.head? = some ',' ∨ rest.head? = some '\n'

/-- The token of a value that holds no others and is spelled in one way only. -/
def token : JsonValue → Token
  | .null => .null
  | .bool b => .bool b
  | .int n => .int n
  | .str t => .str t
  | _ => .stray

/-- A value that is written as that token. -/
structure Plain (j : JsonValue) : Prop where
  reads : scalar? (token j) = some j
  writable : ∀ n, j = .int n → Writable n

theorem Plain.cases {j : JsonValue} (hj : Plain j) :
    j = .null ∨ (∃ b, j = .bool b) ∨ (∃ n, j = .int n ∧ Writable n) ∨ ∃ t, j = .str t := by
  cases j with
  | null => exact .inl rfl
  | bool b => exact .inr (.inl ⟨b, rfl⟩)
  | int n => exact .inr (.inr (.inl ⟨n, rfl, hj.writable n rfl⟩))
  | str t => exact .inr (.inr (.inr ⟨t, rfl⟩))
  | _ => simpa [token, scalar?] using hj.reads

/-- How a plain value is spelled. -/
def spelling : JsonValue → Text
  | .null => "null"
  | .bool b => if b then "true" else "false"
  | .int n => decimal n
  | .str t => quote t
  | _ => []

theorem writeScalar_of_plain {j : JsonValue} (hj : Plain j) : writeScalar j = .ok (spelling j) := by
  rcases hj.cases with rfl | ⟨b, rfl⟩ | ⟨n, rfl, hn⟩ | ⟨t, rfl⟩
  · rfl
  · rfl
  · exact writeDecimal_of_writable hn
  · rfl

section

variable {rest : Text}

theorem digitsOf_natDecimal (n : Nat) (hrest : Parted rest) : digitsOf (natDecimal n ++ rest) = natDecimal n := by
  have hall : ∀ c ∈ natDecimal n, c.isDigit = true := fun c hc => isDigit_of_mem_natDecimal hc
  rw [digitsOf, List.takeWhile_append_of_pos hall]
  rcases rest with _ | ⟨c, rest⟩
  · simp
  · rcases hrest with h | h <;> obtain rfl := Option.some.inj h <;> simp [Char.isDigit]

theorem wholeDigits_natDecimal (n : Nat) (hrest : Parted rest) : wholeDigits (natDecimal n ++ rest) = natDecimal n := by
  rcases Nat.eq_zero_or_pos n with rfl | hn
  · rfl
  · have hhead := head?_natDecimal hn
    obtain ⟨c, t, hct⟩ := List.exists_cons_of_ne_nil (natDecimal_ne_nil n)
    have hc : c ≠ '0' := by
      rw [hct] at hhead
      exact fun h => hhead (congrArg some h)
    have hdigits := digitsOf_natDecimal n hrest
    rw [hct] at hdigits ⊢
    rw [List.cons_append] at hdigits ⊢
    rw [wholeDigits.eq_2 _ (by simp [hc]), hdigits]

/-- A number ends where neither a fraction nor an exponent follows. -/
theorem number?_signed (sign : Text) {n : Nat} (hsign : minus (sign ++ (natDecimal n ++ rest)) = sign)
    (hrest : Parted rest) :
    number? (sign ++ (natDecimal n ++ rest)) =
      some (.int (if sign.isEmpty then n else -n), (sign ++ natDecimal n).length) := by
  have hend : fraction rest = [] ∧ exponent rest = [] := by
    rcases rest with _ | ⟨c, rest⟩
    · exact ⟨rfl, rfl⟩
    · rcases hrest with h | h <;> obtain rfl := Option.some.inj h <;> exact ⟨rfl, rfl⟩
  have hbehind : (sign ++ (natDecimal n ++ rest)).drop (sign ++ natDecimal n).length = rest := by
    rw [← List.append_assoc, List.drop_left]
  have hne : (natDecimal n).isEmpty = false := by simp [natDecimal_ne_nil]
  unfold number?
  simp only [hsign, List.drop_left, wholeDigits_natDecimal n hrest, hne, hbehind, hend.1, hend.2, ofDigits_natDecimal,
    List.length_nil, Nat.add_zero, List.append_nil, if_true, Bool.false_eq_true, if_false]

theorem number?_decimal (v : Int) (hrest : Parted rest) :
    number? (decimal v ++ rest) = some (.int v, (decimal v).length) := by
  rcases decimal_cases v with ⟨hv, heq⟩ | ⟨hv, heq⟩
  · have := number?_signed ['-'] (n := v.natAbs) rfl hrest
    rw [List.isEmpty_cons, if_neg (by decide), ← hv] at this
    rwa [heq]
  · obtain ⟨c, t, hct⟩ := List.exists_cons_of_ne_nil (natDecimal_ne_nil v.natAbs)
    have hminus : minus (natDecimal v.natAbs ++ rest) = [] := by
      have hdigit := isDigit_of_mem_natDecimal (n := v.natAbs) (c := c) (by simp [hct])
      have hc : c ≠ '-' := by
        rintro rfl
        simp [Char.isDigit] at hdigit
      rw [hct, List.cons_append, minus.eq_2 _ (by simp [hc])]
    have := number?_signed [] hminus hrest
    rw [List.isEmpty_nil, if_pos rfl, ← hv] at this
    rwa [heq]

/-- What begins no word and no other token is a number or a stray character. -/
theorem tokenAt_of_number {position : Nat} {c : Char} {t : Text}
    (hc : c ∉ ['\x7b', '\x7d', '[', ']', ':', ',', '"']) (hword : ∀ k ∈ keywords, k.1.isPrefixOf (c :: t) = false) :
    tokenAt position (c :: t) = (number? (c :: t)).getD (.stray, 1) := by
  have hnone : keywords.find? (fun k => k.1.isPrefixOf (c :: t)) = none := by
    rw [List.find?_eq_none]
    intro k hk
    simp [hword k hk]
  simp only [List.mem_cons, List.not_mem_nil, or_false, not_or] at hc
  obtain ⟨h₁, h₂, h₃, h₄, h₅, h₆, h₇⟩ := hc
  rw [tokenAt.eq_8 _ _ (by simp [h₁]) (by simp [h₂]) (by simp [h₃]) (by simp [h₄]) (by simp [h₅]) (by simp [h₆])
    (by simp [h₇]), hnone]

theorem tokenAt_decimal (position : Nat) (v : Int) (hrest : Parted rest) :
    tokenAt position (decimal v ++ rest) = (.int v, (decimal v).length) := by
  have hnumber := number?_decimal v hrest
  obtain ⟨d, t, hdt⟩ := List.exists_cons_of_ne_nil (natDecimal_ne_nil v.natAbs)
  have hd := isDigit_of_mem_natDecimal (n := v.natAbs) (c := d) (by simp [hdt])
  have hdigit : ∀ x : Char, x.isDigit = false → (x == d) = false := by
    intro x hx
    rw [beq_eq_false_iff_ne]
    rintro rfl
    simp [hd] at hx
  have hword : ∀ k ∈ keywords, k.1.isPrefixOf (d :: (t ++ rest)) = false ∧
      k.1.isPrefixOf ('-' :: d :: (t ++ rest)) = false := by
    simp [keywords, List.isPrefixOf_cons_cons, hdigit _ (show 'n'.isDigit = false from rfl),
      hdigit _ (show 't'.isDigit = false from rfl), hdigit _ (show 'f'.isDigit = false from rfl),
      hdigit _ (show 'N'.isDigit = false from rfl), hdigit _ (show 'I'.isDigit = false from rfl),
      hdigit _ (show '-'.isDigit = false from rfl)]
  have hmark : d ∉ ['\x7b', '\x7d', '[', ']', ':', ',', '"'] := by
    intro hmem
    have hmarks : ∀ x ∈ ['\x7b', '\x7d', '[', ']', ':', ',', '"'], x.isDigit = false := by decide
    simp [hmarks d hmem] at hd
  rcases decimal_cases v with ⟨-, heq⟩ | ⟨-, heq⟩
  · rw [heq, hdt] at hnumber ⊢
    rw [List.cons_append, List.cons_append, tokenAt_of_number (by decide) fun k hk => (hword k hk).2]
    exact congrArg (·.getD (.stray, 1)) hnumber
  · rw [heq, hdt] at hnumber ⊢
    rw [List.cons_append, tokenAt_of_number hmark fun k hk => (hword k hk).1]
    exact congrArg (·.getD (.stray, 1)) hnumber

theorem tokenAt_quote (position : Nat) (t rest : Text) :
    tokenAt position (quote t ++ rest) = (.str t, (quote t).length) := by
  have hquote : quote t ++ rest = '"' :: (t.flatMap escapeChar ++ '"' :: rest) := by simp [quote]
  have hlength : position + 1 + (t.flatMap escapeChar).length + 1 - position = (quote t).length := by
    simp [quote]
    omega
  rw [hquote, tokenAt.eq_7, readString_quoted]
  exact congrArg (Token.str t, ·) hlength

theorem isSpace_of_isDigit {c : Char} (h : c.isDigit = true) : isSpace c = false := by
  rw [Bool.eq_false_iff]
  intro hspace
  simp only [isSpace, Bool.or_eq_true, beq_iff_eq] at hspace
  rcases hspace with ((rfl | rfl) | rfl) | rfl <;> simp [Char.isDigit] at h

/-- A plain value is spelled as its token, which begins with no space. -/
theorem tokenAt_spelling {j : JsonValue} (hj : Plain j) (position : Nat) (hrest : Parted rest) :
    tokenAt position (spelling j ++ rest) = (token j, (spelling j).length) ∧
      ∃ c t, spelling j = c :: t ∧ isSpace c = false := by
  rcases hj.cases with rfl | ⟨b, rfl⟩ | ⟨n, rfl, -⟩ | ⟨t, rfl⟩
  · exact ⟨rfl, _, _, rfl, rfl⟩
  · cases b <;> exact ⟨rfl, _, _, rfl, rfl⟩
  · refine ⟨tokenAt_decimal position n hrest, ?_⟩
    obtain ⟨d, t, hdt⟩ := List.exists_cons_of_ne_nil (natDecimal_ne_nil n.natAbs)
    rcases decimal_cases n with ⟨-, heq⟩ | ⟨-, heq⟩
    · exact ⟨_, _, heq, rfl⟩
    · exact ⟨_, _, heq.trans hdt, isSpace_of_isDigit (isDigit_of_mem_natDecimal (n := n.natAbs) (by simp [hdt]))⟩
  · exact ⟨tokenAt_quote position t rest, _, _, rfl, rfl⟩

end

/-! ### The tokens of a flat object -/

/-- The tokens of a text in front of another one, whatever the position is at which they stand. -/
def Yields (a : Text) (ts : List Token) (rest : Text) : Prop :=
  ∀ position, ∃ position', (tokensFrom position 0 (a ++ rest)).map (·.2) = ts ++ (tokensFrom position' 0 rest).map (·.2)

section

variable {a b rest : Text} {ts us : List Token}

theorem Yields.append (ha : Yields a ts (b ++ rest)) (hb : Yields b us rest) : Yields (a ++ b) (ts ++ us) rest := by
  intro position
  obtain ⟨middle, hfirst⟩ := ha position
  obtain ⟨position', hsecond⟩ := hb middle
  exact ⟨position', by rw [List.append_assoc, hfirst, hsecond, List.append_assoc]⟩

theorem tokensFrom_skip (position : Nat) (a rest : Text) :
    tokensFrom position a.length (a ++ rest) = tokensFrom (position + a.length) 0 rest := by
  induction a generalizing position with
  | nil => rfl
  | cons c a ih =>
    rw [List.length_cons, List.cons_append, tokensFrom.eq_2, ih]
    congr 1
    omega

theorem yields_token {c : Char} {t : Text} {tok : Token} (hspace : isSpace c = false)
    (h : ∀ position, tokenAt position (c :: t ++ rest) = (tok, (c :: t).length)) : Yields (c :: t) [tok] rest := by
  intro position
  refine ⟨position + 1 + t.length, ?_⟩
  have htoken := h position
  rw [List.cons_append] at htoken ⊢
  rw [tokensFrom.eq_3, hspace, htoken]
  simp [tokensFrom_skip]

theorem yields_space {t : Text} (h : t.all isSpace = true) (rest : Text) : Yields t [] rest := by
  intro position
  induction t generalizing position with
  | nil => exact ⟨position, rfl⟩
  | cons c t ih =>
    obtain ⟨hc, ht⟩ := Bool.and_eq_true_iff.1 (List.all_cons ▸ h)
    rw [List.cons_append, tokensFrom.eq_3, if_pos hc]
    exact ih ht (position + 1)

theorem yields_mark {c : Char} {tok : Token}
    (hc : (c, tok) ∈ [('\x7b', .openBrace), ('\x7d', .closeBrace), (':', .colon), (',', .comma)]) (rest : Text) :
    Yields [c] [tok] rest := by
  simp only [List.mem_cons, List.not_mem_nil, or_false, Prod.mk.injEq] at hc
  rcases hc with ⟨rfl, rfl⟩ | ⟨rfl, rfl⟩ | ⟨rfl, rfl⟩ | ⟨rfl, rfl⟩ <;> exact yields_token rfl fun _ => rfl

end

section

variable {rest : Text} {depth : Nat} {m : Text × JsonValue} {ms : List (Text × JsonValue)}

/-- The line of a member. -/
def memberLine (m : Text × JsonValue) : Text :=
  memberHead m.1 ++ spelling m.2

def memberTokens (m : Text × JsonValue) : List Token :=
  [.str m.1, .colon, token m.2]

/-- The text of an object of plain values. -/
def flatText (ms : List (Text × JsonValue)) : Text :=
  "\x7b\n" ++ Text.join ",\n" (ms.map memberLine) ++ "\n\x7d"

theorem writeMembers_of_plain (hms : ∀ m ∈ ms, Plain m.2) :
    writeMembers ms = (Text.join ",\n" (ms.map memberLine), .ok ()) := by
  induction ms with
  | nil => rfl
  | cons m ms ih =>
    have hmore := ih fun m hm => hms m (List.mem_cons_of_mem _ hm)
    obtain ⟨name, value⟩ := m
    rw [writeMembers, writeScalar_of_plain (hms _ List.mem_cons_self), hmore]
    cases ms with
    | nil => simp [Text.join, memberLine]
    | cons m' ms => simp [Text.join, memberLine]

theorem writeFlat_of_plain (hms : ∀ m ∈ ms, Plain m.2) : writeFlat ms = (flatText ms, .ok ()) := by
  rw [writeFlat, writeMembers_of_plain hms]
  rfl

theorem writeScalar_error {j : JsonValue} {cause : DigitError} (h : writeScalar j = .error cause) : cause = .writing := by
  cases j with
  | int n =>
    rw [writeScalar, writeDecimal] at h
    split at h
    · exact (Except.error.inj h).symm
    · simp at h
  | _ => simp [writeScalar] at h

/-- An object is not written to the end if an integer in it is too long. -/
theorem writeFlat_of_not_writable {name : Text} {n : Int} (hmem : (name, .int n) ∈ ms) (hn : ¬ Writable n) :
    (writeFlat ms).2 = .error .writing := by
  have hmembers : (writeMembers ms).2 = .error .writing := by
    induction ms with
    | nil => simp at hmem
    | cons m ms ih =>
      obtain ⟨other, value⟩ := m
      rw [writeMembers]
      cases hvalue : writeScalar value with
      | error cause =>
        obtain rfl := writeScalar_error hvalue
        rfl
      | ok text =>
        rcases List.mem_cons.1 hmem with heq | hmem
        · obtain ⟨-, rfl⟩ := Prod.mk.inj heq
          simp [writeScalar, writeDecimal_of_not_writable hn] at hvalue
        · exact ih hmem
  rw [writeFlat]
  split
  · next h => simp [h] at hmembers
  · next h => simpa [h] using hmembers

theorem yields_member (hm : Plain m.2) (hrest : Parted rest) : Yields (memberLine m) (memberTokens m) rest := by
  have hvalue : Yields (spelling m.2) [token m.2] rest := by
    obtain ⟨-, c, t, hct, hspace⟩ := tokenAt_spelling hm 0 hrest
    rw [hct]
    refine yields_token hspace fun position => ?_
    rw [← hct]
    exact (tokenAt_spelling hm position hrest).1
  have hname : ∀ rest, Yields (quote m.1) [.str m.1] rest := fun rest =>
    yields_token (c := '"') rfl fun position => tokenAt_quote position m.1 rest
  have hcolon : ∀ rest, Yields ": " [.colon] rest := fun rest =>
    (yields_mark (c := ':') (by simp) _).append (yields_space (t := [' ']) rfl rest)
  exact (((yields_space (t := [' ', ' ']) rfl _).append (hname _)).append (hcolon _)).append hvalue

theorem yields_members (hms : ∀ m ∈ ms, Plain m.2) (hrest : Parted rest) :
    Yields (Text.join ",\n" (ms.map memberLine)) (List.intercalate [.comma] (ms.map memberTokens)) rest := by
  induction ms with
  | nil => exact yields_space rfl rest
  | cons m ms ih =>
    have hm := hms m List.mem_cons_self
    cases ms with
    | nil => simpa [Text.join] using yields_member hm hrest
    | cons m' ms =>
      have hcomma : ∀ rest, Yields ",\n" [.comma] rest := fun rest =>
        (yields_mark (c := ',') (by simp) _).append (yields_space (t := ['\n']) rfl rest)
      have hmore := ih fun m hm => hms m (List.mem_cons_of_mem _ hm)
      simp only [Text.join, List.map_cons, List.intercalate_cons_cons] at hmore ⊢
      exact ((yields_member hm (.inl rfl)).append (hcomma _)).append hmore

theorem yields_flatText (hms : ∀ m ∈ ms, Plain m.2) :
    Yields (flatText ms) ([.openBrace] ++ List.intercalate [.comma] (ms.map memberTokens) ++ [.closeBrace]) [] := by
  have hopen : ∀ rest, Yields "\x7b\n" [.openBrace] rest := fun rest =>
    (yields_mark (c := '\x7b') (by simp) _).append (yields_space (t := ['\n']) rfl rest)
  have hclose : Yields "\n\x7d" [.closeBrace] [] :=
    (yields_space (t := ['\n']) rfl _).append (yields_mark (c := '\x7d') (by simp) [])
  exact ((hopen _).append (yields_members hms (.inr rfl))).append hclose

/-! ### Reading it -/

theorem readTokens_cons {length position : Nat} {e e' : Expectation} {stack stack' : List Frame} {tok : Token}
    {ts : List (Nat × Token)} (h : advance? e stack tok = some (e', stack')) (hlimit : limitFault? depth stack tok = none) :
    readTokens depth length e stack ((position, tok) :: ts) = readTokens depth length e' stack' ts := by
  rw [readTokens, h]
  simp only [hlimit]

/-- The token of a plain value goes beyond no limit. -/
theorem limitFault?_token (hm : Plain m.2) (stack : List Frame) : limitFault? depth stack (token m.2) = none := by
  rcases hm.cases with h | ⟨b, h⟩ | ⟨n, h, hn⟩ | ⟨t, h⟩
  · rw [h]; rfl
  · rw [h]; rfl
  · rw [h]
    exact if_pos (writable_iff.1 hn)
  · rw [h]; rfl

theorem assign_of_notMem {name : Text} {j : JsonValue} (h : name ∉ ms.map (·.1)) : assign name j ms = ms ++ [(name, j)] := by
  induction ms with
  | nil => rfl
  | cons m ms ih =>
    simp only [List.map_cons, List.mem_cons, not_or] at h
    rw [assign, if_neg (Ne.symm h.1), ih h.2]
    rfl

/-- Where a member can stand, its tokens are read as one that is added to those before it. -/
theorem readTokens_member {length : Nat} {e : Expectation} {done : List (Text × JsonValue)} {last : Text}
    {us : List Token} {ts : List (Nat × Token)} (he : e = .firstName ∨ e = .name) (hm : Plain m.2)
    (hnew : m.1 ∉ done.map (·.1)) (hts : ts.map (·.2) = memberTokens m ++ us) :
    ∃ ts', ts'.map (·.2) = us ∧
      readTokens depth length e [.object done last] ts =
        readTokens depth length .comma [.object (done ++ [m]) m.1] ts' := by
  obtain ⟨⟨p, _⟩, ts₁, rfl, rfl, hts₁⟩ := List.map_eq_cons_iff.1 hts
  obtain ⟨⟨p₁, _⟩, ts₂, rfl, rfl, hts₂⟩ := List.map_eq_cons_iff.1 hts₁
  obtain ⟨⟨p₂, tok⟩, ts₃, rfl, htok, hts₃⟩ := List.map_eq_cons_iff.1 hts₂
  obtain rfl : tok = token m.2 := htok
  refine ⟨ts₃, hts₃, ?_⟩
  have hname : advance? e [.object done last] (.str m.1) = some (.colon, [.object done m.1]) := by
    rcases he with rfl | rfl <;> rfl
  have hvalue : advance? .value [.object done m.1] (token m.2) = some (.comma, [.object (done ++ [m]) m.1]) := by
    have hopens : opens (token m.2) = none := by
      rcases hm.cases with h | ⟨_, h⟩ | ⟨_, h, -⟩ | ⟨_, h⟩ <;> rw [h] <;> rfl
    have hbegin : begin? (token m.2) [.object done m.1] = some (complete m.2 [.object done m.1]) := by
      rw [begin?, hopens, hm.reads]
      rfl
    rw [advance?, hbegin, complete, assign_of_notMem hnew]
  have hcolon : advance? .colon [.object done m.1] .colon = some (.value, [.object done m.1]) := rfl
  rw [readTokens_cons hname rfl, readTokens_cons hcolon rfl, readTokens_cons hvalue (limitFault?_token hm _)]

theorem readTokens_members {length : Nat} {e : Expectation} {done : List (Text × JsonValue)} {last : Text}
    {ts : List (Nat × Token)} (he : e = .firstName ∨ e = .name) (ne : ms ≠ []) (hms : ∀ m ∈ ms, Plain m.2)
    (hnodup : ((done ++ ms).map (·.1)).Nodup)
    (hts : ts.map (·.2) = List.intercalate [.comma] (ms.map memberTokens) ++ [.closeBrace]) :
    readTokens depth length e [.object done last] ts = .ok (.obj (done ++ ms)) := by
  induction ms generalizing e done last ts with
  | nil => exact absurd rfl ne
  | cons m ms ih =>
    have hm := hms m List.mem_cons_self
    have hnew : m.1 ∉ done.map (·.1) := by
      intro hmem
      rw [List.map_append, List.map_cons] at hnodup
      exact (List.nodup_append.1 hnodup).2.2 _ hmem _ List.mem_cons_self rfl
    cases ms with
    | nil =>
      have hlast : ts.map (·.2) = memberTokens m ++ [.closeBrace] := by simpa using hts
      obtain ⟨ts', hts', heq⟩ := readTokens_member he hm hnew hlast
      obtain ⟨⟨_, _⟩, ts', rfl, rfl, hnil⟩ := List.map_eq_cons_iff.1 hts'
      obtain rfl := List.map_eq_nil_iff.1 hnil
      have hclose : advance? .comma [.object (done ++ [m]) m.1] .closeBrace =
          some (.done (.obj (done ++ [m])), []) := rfl
      rw [heq, readTokens_cons hclose rfl]
      rfl
    | cons m' ms =>
      simp only [List.map_cons, List.intercalate_cons_cons, List.append_assoc] at hts
      obtain ⟨ts', hts', heq⟩ := readTokens_member he hm hnew hts
      obtain ⟨⟨_, _⟩, ts', rfl, rfl, hmore⟩ := List.map_eq_cons_iff.1 hts'
      have hcomma : advance? .comma [.object (done ++ [m]) m.1] .comma = some (.name, [.object (done ++ [m]) m.1]) :=
        rfl
      rw [heq, readTokens_cons hcomma rfl, ih (.inr rfl) (by simp)
        (fun m hm => hms m (List.mem_cons_of_mem _ hm)) (by simpa using hnodup) hmore]
      simp

/-- A flat object with no name twice reads back from what is written for it. -/
theorem read_flatText (hdepth : 0 < depth) (hms : ∀ m ∈ ms, Plain m.2) (hnodup : (ms.map (·.1)).Nodup) :
    read depth (flatText ms) = .ok (.obj ms) := by
  obtain ⟨position', htokens⟩ := yields_flatText hms 0
  rw [List.append_nil] at htokens
  have hread : readTokens depth (flatText ms).length .value [] (tokens (flatText ms)) = .ok (.obj ms) := by
    obtain ⟨⟨_, _⟩, ts, hcons, rfl, hts⟩ := List.map_eq_cons_iff.1 htokens
    have hopen : limitFault? depth [] .openBrace = none := if_pos hdepth
    rw [tokens, hcons, readTokens_cons (e := .value) rfl hopen]
    cases ms with
    | nil =>
      obtain ⟨⟨_, _⟩, ts, rfl, rfl, hnil⟩ := List.map_eq_cons_iff.1 hts
      obtain rfl := List.map_eq_nil_iff.1 hnil
      rfl
    | cons m ms => exact readTokens_members (.inl rfl) (by simp) hms hnodup (by simpa [tokensFrom] using hts)
  have hmark : (flatText ms).head? ≠ some (Char.ofNat 0xFEFF) := by
    have hhead : (flatText ms).head? = some '\x7b' := rfl
    rw [hhead]
    decide
  rw [read, if_neg hmark, hread]
  rfl

/-! ### Line ends -/

theorem return_notMem_escapeChar (c : Char) : '\r' ∉ escapeChar c := by
  have hunit : ∀ n, '\r' ∉ escapeUnit n := by
    intro n hmem
    have hdigit : '\r' ∈ padTo 4 (natHex n) := by simpa [escapeUnit] using hmem
    exact absurd (isHexDigit_of_mem_padTo hdigit) (by decide)
  rcases escapeChar_eq c with ⟨x, hx, heq⟩ | ⟨-, -, hc, heq⟩ | ⟨-, heq⟩ | ⟨-, heq⟩
  · rw [heq]
    rintro (_ | ⟨_, _ | ⟨_, ⟨⟩⟩⟩)
    simp [escaped?] at hx
  · rw [heq, List.mem_singleton]
    rintro rfl
    exact absurd hc (by decide)
  · rw [heq]
    exact hunit _
  · rw [heq, List.mem_append, not_or]
    exact ⟨hunit _, hunit _⟩

theorem return_notMem_quote (t : Text) : '\r' ∉ quote t := by
  simp [quote, return_notMem_escapeChar]

theorem return_notMem_spelling {j : JsonValue} (hj : Plain j) : '\r' ∉ spelling j := by
  rcases hj.cases with rfl | ⟨b, rfl⟩ | ⟨n, rfl, -⟩ | ⟨t, rfl⟩
  · decide
  · cases b <;> decide
  · have hdigits : '\r' ∉ natDecimal n.natAbs := fun hmem => absurd (isDigit_of_mem_natDecimal hmem) (by decide)
    rcases decimal_cases n with ⟨-, heq⟩ | ⟨-, heq⟩ <;> simp [spelling, heq, hdigits]
  · exact return_notMem_quote t

/-- No line of a written object ends with a return, so that its text is read as it was written. -/
theorem return_notMem_flatText (hms : ∀ m ∈ ms, Plain m.2) : '\r' ∉ flatText ms := by
  have hline : ∀ m ∈ ms, '\r' ∉ memberLine m := by
    intro m hm
    simp [memberLine, memberHead, return_notMem_quote, return_notMem_spelling (hms m hm)]
  have hlines : '\r' ∉ Text.join ",\n" (ms.map memberLine) := by
    clear hms
    induction ms with
    | nil => simp [Text.join]
    | cons m ms ih =>
      have hmore := ih fun m hm => hline m (List.mem_cons_of_mem _ hm)
      have hm := hline m List.mem_cons_self
      cases ms with
      | nil => simpa [Text.join] using hm
      | cons m' ms =>
        simp only [Text.join, List.map_cons, List.intercalate_cons_cons, List.mem_append, not_or] at hmore ⊢
        exact ⟨⟨hm, by decide⟩, hmore⟩
  rw [flatText, List.mem_append, List.mem_append, not_or, not_or]
  exact ⟨⟨by decide, hlines⟩, by decide⟩

end

end Stepper.Json
