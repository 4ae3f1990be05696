import Mathlib.Tactic.IntervalCases
import Stepper.Files.Utf8

/-! UTF-8 read back. What was written for a text is decoded to the text, nothing else can be decoded, and the ends of
the lines stay as they are if there is no carriage return in the text. -/

namespace Stepper.Utf8

/-- The byte behind the first one that carries the lowest six bits of `n`. -/
def trail (n : Nat) : UInt8 :=
  UInt8.ofNat (n % 64 + 0x80)

theorem toNat_trail (n : Nat) : (trail n).toNat = n % 64 + 0x80 := by
  rw [trail, UInt8.toNat_ofNat']
  omega

/-- A first byte for `k`, and what is owed behind it. -/
theorem lead?_two (start : Nat) : ∀ k < 32, 2 ≤ k →
    lead? (UInt8.ofNat (k + 0xC0)) start = some ⟨UInt8.ofNat (k + 0xC0), start, 1, 0x80, 0xBF, k⟩ := by
  intro k hk h2
  interval_cases k <;> rfl

theorem lead?_three (start : Nat) : ∀ k < 16,
    lead? (UInt8.ofNat (k + 0xE0)) start = some ⟨UInt8.ofNat (k + 0xE0), start, 2, if k = 0 then 0xA0 else 0x80,
      if k = 13 then 0x9F else 0xBF, k⟩ := by
  intro k hk
  interval_cases k <;> rfl

theorem lead?_four (start : Nat) : ∀ k < 5,
    lead? (UInt8.ofNat (k + 0xF0)) start = some ⟨UInt8.ofNat (k + 0xF0), start, 3, if k = 0 then 0x90 else 0x80,
      if k = 4 then 0x8F else 0xBF, k⟩ := by
  intro k hk
  interval_cases k <;> rfl

section

variable {p : Pending} {n : Nat} (hlow : p.low.toNat ≤ n % 64 + 0x80) (hhigh : n % 64 + 0x80 ≤ p.high.toNat)
  (position : Nat) (rest : List UInt8)

include hlow hhigh

theorem trail_in_bounds : (p.low ≤ trail n && trail n ≤ p.high) = true := by
  simp only [Bool.and_eq_true, decide_eq_true_eq, UInt8.le_iff_toNat_le, toNat_trail]
  exact ⟨hlow, hhigh⟩

theorem decodeFrom_trail_last (howed : p.owed = 1) :
    decodeFrom position (some p) (trail n :: rest) =
      (Char.ofNat (p.bits * 64 + n % 64) :: ·) <$> decodeFrom (position + 1) none rest := by
  rw [decodeFrom]
  simp [trail_in_bounds hlow hhigh, howed, toNat_trail]

theorem decodeFrom_trail (howed : 1 < p.owed) :
    decodeFrom position (some p) (trail n :: rest) =
      decodeFrom (position + 1)
        (some { p with owed := p.owed - 1, low := 0x80, high := 0xBF, bits := p.bits * 64 + n % 64 }) rest := by
  rw [decodeFrom]
  simp [trail_in_bounds hlow hhigh, howed, toNat_trail]

end

theorem decodeFrom_lead {b : UInt8} {position : Nat} {p : Pending} (hb : 0x80 ≤ b.toNat)
    (hp : lead? b position = some p) (rest : List UInt8) :
    decodeFrom position none (b :: rest) = decodeFrom (position + 1) (some p) rest := by
  have : ¬ b < 0x80 := by
    rw [UInt8.lt_iff_toNat_lt]
    exact Nat.not_lt.2 hb
  rw [decodeFrom]
  simp [this, hp]

theorem toNat_valid (c : Char) : c.toNat < 0xD800 ∨ 0xDFFF < c.toNat ∧ c.toNat < 0x110000 := c.valid

theorem utf8EncodeChar_cases (c : Char) :
    (c.toNat < 0x80 ∧ String.utf8EncodeChar c = [UInt8.ofNat c.toNat]) ∨
    (0x80 ≤ c.toNat ∧ c.toNat < 0x800 ∧
      String.utf8EncodeChar c = [UInt8.ofNat (c.toNat / 64 + 0xC0), trail c.toNat]) ∨
    (0x800 ≤ c.toNat ∧ c.toNat < 0x10000 ∧
      String.utf8EncodeChar c = [UInt8.ofNat (c.toNat / 4096 + 0xE0), trail (c.toNat / 64), trail c.toNat]) ∨
    (0x10000 ≤ c.toNat ∧ String.utf8EncodeChar c =
      [UInt8.ofNat (c.toNat / 262144 + 0xF0), trail (c.toNat / 4096), trail (c.toNat / 64), trail c.toNat]) := by
  have hv := toNat_valid c
  have henc : String.utf8EncodeChar c =
      if c.toNat ≤ 0x7F then [UInt8.ofNat c.toNat]
      else if c.toNat ≤ 0x7FF then [UInt8.ofNat (c.toNat / 64 % 0x20 + 0xC0), trail c.toNat]
      else if c.toNat ≤ 0xFFFF then
        [UInt8.ofNat (c.toNat / 4096 % 0x10 + 0xE0), trail (c.toNat / 64), trail c.toNat]
      else [UInt8.ofNat (c.toNat / 262144 % 0x08 + 0xF0), trail (c.toNat / 4096), trail (c.toNat / 64),
        trail c.toNat] := rfl
  rw [henc]
  split_ifs with h1 h2 h3
  · exact .inl ⟨by omega, rfl⟩
  · refine .inr (.inl ⟨by omega, by omega, ?_⟩)
    rw [Nat.mod_eq_of_lt (by omega)]
  · refine .inr (.inr (.inl ⟨by omega, by omega, ?_⟩))
    rw [Nat.mod_eq_of_lt (by omega)]
  · refine .inr (.inr (.inr ⟨by omega, ?_⟩))
    rw [Nat.mod_eq_of_lt (by omega)]

/-- The bytes of one character are decoded to it, whatever follows. -/
theorem decodeFrom_char (position : Nat) (c : Char) (rest : List UInt8) :
    decodeFrom position none (String.utf8EncodeChar c ++ rest) =
      (c :: ·) <$> decodeFrom (position + (String.utf8EncodeChar c).length) none rest := by
  have hv := toNat_valid c
  have hc : ∀ n, n = c.toNat → Char.ofNat n = c := by
    rintro n rfl
    exact Char.ofNat_toNat c
  have hfirst : ∀ k, k < 256 → (UInt8.ofNat k).toNat = k := fun k hk => by
    rw [UInt8.toNat_ofNat', Nat.mod_eq_of_lt hk]
  rcases utf8EncodeChar_cases c with ⟨h, he⟩ | ⟨h1, h2, he⟩ | ⟨h1, h2, he⟩ | ⟨h1, he⟩
  · have hn := hfirst c.toNat (by omega)
    have hlt : UInt8.ofNat c.toNat < 0x80 := by
      rw [UInt8.lt_iff_toNat_lt, hn]
      exact h
    rw [he, List.singleton_append, decodeFrom, List.length_singleton]
    simp only [hlt, if_true, hn, hc _ rfl]
  · have hn := hfirst (c.toNat / 64 + 0xC0) (by omega)
    have hlead := lead?_two position (c.toNat / 64) (by omega) (by omega)
    have hlast := decodeFrom_trail_last
      (p := ⟨UInt8.ofNat (c.toNat / 64 + 0xC0), position, 1, 0x80, 0xBF, c.toNat / 64⟩) (n := c.toNat)
      (by change 0x80 ≤ _; omega) (by change _ ≤ 0xBF; omega) (position + 1) rest rfl
    rw [he, List.cons_append, decodeFrom_lead (by omega) hlead, List.singleton_append, hlast]
    simp only [hc _ (show c.toNat / 64 * 64 + c.toNat % 64 = c.toNat by omega)]
    rfl
  · have hn := hfirst (c.toNat / 4096 + 0xE0) (by omega)
    have hlead := lead?_three position (c.toNat / 4096) (by omega)
    -- the bounds of the second byte leave out the overlong forms and the surrogates
    have hlow : (if c.toNat / 4096 = 0 then 0xA0 else 0x80 : UInt8).toNat ≤ c.toNat / 64 % 64 + 0x80 := by
      split_ifs
      · change 0xA0 ≤ _
        omega
      · change 0x80 ≤ _
        omega
    have hhigh : c.toNat / 64 % 64 + 0x80 ≤ (if c.toNat / 4096 = 13 then 0x9F else 0xBF : UInt8).toNat := by
      split_ifs
      · change _ ≤ 0x9F
        omega
      · change _ ≤ 0xBF
        omega
    rw [he, List.cons_append, decodeFrom_lead (by omega) hlead, List.cons_append,
      decodeFrom_trail hlow hhigh _ _ (Nat.succ_lt_succ (Nat.succ_pos _)), List.singleton_append,
      decodeFrom_trail_last (by change 0x80 ≤ _; omega) (by change _ ≤ 0xBF; omega) _ _ rfl]
    simp only [hc _ (show (c.toNat / 4096 * 64 + c.toNat / 64 % 64) * 64 + c.toNat % 64 = c.toNat by omega)]
    rfl
  · have hn := hfirst (c.toNat / 262144 + 0xF0) (by omega)
    have hlead := lead?_four position (c.toNat / 262144) (by omega)
    -- and here the overlong forms and what is beyond the last code point
    have hlow : (if c.toNat / 262144 = 0 then 0x90 else 0x80 : UInt8).toNat ≤ c.toNat / 4096 % 64 + 0x80 := by
      split_ifs
      · change 0x90 ≤ _
        omega
      · change 0x80 ≤ _
        omega
    have hhigh : c.toNat / 4096 % 64 + 0x80 ≤ (if c.toNat / 262144 = 4 then 0x8F else 0xBF : UInt8).toNat := by
      split_ifs
      · change _ ≤ 0x8F
        omega
      · change _ ≤ 0xBF
        omega
    rw [he, List.cons_append, decodeFrom_lead (by omega) hlead, List.cons_append,
      decodeFrom_trail hlow hhigh _ _ (Nat.succ_lt_succ (Nat.succ_pos _)), List.cons_append,
      decodeFrom_trail (by change 0x80 ≤ _; omega) (by change _ ≤ 0xBF; omega) _ _ (Nat.succ_lt_succ (Nat.succ_pos _)), List.singleton_append,
      decodeFrom_trail_last (by change 0x80 ≤ _; omega) (by change _ ≤ 0xBF; omega) _ _ rfl]
    simp only [hc _ (show ((c.toNat / 262144 * 64 + c.toNat / 4096 % 64) * 64 + c.toNat / 64 % 64) * 64 + c.toNat % 64 =
      c.toNat by omega)]
    rfl

theorem decodeFrom_encode (position : Nat) (t : Text) : decodeFrom position none (encode t) = .ok t := by
  induction t generalizing position with
  | nil => rfl
  | cons c t ih =>
    rw [encode, List.flatMap_cons, decodeFrom_char]
    change _ <$> decodeFrom _ none (encode t) = _
    rw [ih]
    rfl

theorem decode_encode (t : Text) : decode (encode t) = .ok t := decodeFrom_encode 0 t

theorem encode_inj {t t' : Text} (h : encode t = encode t') : t = t' := by
  have hdecode := decode_encode t
  rw [h, decode_encode] at hdecode
  exact (Except.ok.inj hdecode).symm

/-! ### What can be decoded -/

theorem bounds_of_lead? {b : UInt8} {start : Nat} {p : Pending} (h : lead? b start = some p) :
    0xC2 ≤ b.toNat ∧ b.toNat ≤ 0xF4 := by
  unfold lead? at h
  simp only [Bool.and_eq_true, decide_eq_true_eq, UInt8.le_iff_toNat_le, ← UInt8.toNat_inj, UInt8.reduceToNat] at h
  split_ifs at h <;> omega

/-- What can be read behind a first byte begins with a byte that carries six bits. -/
theorem exists_trail {p : Pending} {position : Nat} {bytes : List UInt8} {t : Text} (hlow : 0x80 ≤ p.low.toNat)
    (hhigh : p.high.toNat ≤ 0xBF) (h : decodeFrom position (some p) bytes = .ok t) :
    ∃ n < 64, ∃ rest, bytes = trail n :: rest ∧ p.low.toNat ≤ n % 64 + 0x80 ∧ n % 64 + 0x80 ≤ p.high.toNat := by
  cases bytes with
  | nil => simp [decodeFrom] at h
  | cons b rest =>
    rw [decodeFrom] at h
    split at h
    · next hbounds =>
      simp only [Bool.and_eq_true, decide_eq_true_eq, UInt8.le_iff_toNat_le] at hbounds
      have hn : b.toNat - 0x80 < 64 := by omega
      have hb : b = trail (b.toNat - 0x80) := by
        rw [← UInt8.toNat_inj, toNat_trail]
        omega
      exact ⟨b.toNat - 0x80, hn, rest, by rw [← hb], by omega, by omega⟩
    · simp at h

theorem toNat_charOfNat {n : Nat} (h : n < 0xD800 ∨ 0xDFFF < n ∧ n < 0x110000) : (Char.ofNat n).toNat = n := by
  have hvalid : n.isValidChar := h
  rw [Char.ofNat, dif_pos hvalid]
  rfl

theorem trail_congr {m n : Nat} (h : m % 64 = n % 64) : trail m = trail n := by
  rw [trail, trail, h]

theorem utf8EncodeChar_two {k n : Nat} (h2 : 2 ≤ k) (hk : k < 32) (hn : n < 64) :
    String.utf8EncodeChar (Char.ofNat (k * 64 + n)) = [UInt8.ofNat (k + 0xC0), trail n] := by
  have hc := toNat_charOfNat (n := k * 64 + n) (by omega)
  rcases utf8EncodeChar_cases (Char.ofNat (k * 64 + n)) with ⟨h, -⟩ | ⟨-, -, he⟩ | ⟨h, -⟩ | ⟨h, -⟩
  · omega
  · rw [he, hc, show (k * 64 + n) / 64 = k by omega, trail_congr (show (k * 64 + n) % 64 = n % 64 by omega)]
  · omega
  · omega

theorem utf8EncodeChar_three {k m n : Nat} (hk : k < 16) (hm : m < 64) (hn : n < 64) (hlow : k = 0 → 0x20 ≤ m)
    (hhigh : k = 13 → m < 0x20) : String.utf8EncodeChar (Char.ofNat ((k * 64 + m) * 64 + n)) =
      [UInt8.ofNat (k + 0xE0), trail m, trail n] := by
  have hc := toNat_charOfNat (n := (k * 64 + m) * 64 + n) (by omega)
  rcases utf8EncodeChar_cases (Char.ofNat ((k * 64 + m) * 64 + n)) with ⟨h, -⟩ | ⟨-, h, -⟩ | ⟨-, -, he⟩ | ⟨h, -⟩
  · omega
  · omega
  · rw [he, hc, show ((k * 64 + m) * 64 + n) / 4096 = k by omega,
      trail_congr (show ((k * 64 + m) * 64 + n) / 64 % 64 = m % 64 by omega),
      trail_congr (show ((k * 64 + m) * 64 + n) % 64 = n % 64 by omega)]
  · omega

theorem utf8EncodeChar_four {k l m n : Nat} (hk : k < 5) (hl : l < 64) (hm : m < 64) (hn : n < 64) (hlow : k = 0 → 0x10 ≤ l)
    (hhigh : k = 4 → l < 0x10) : String.utf8EncodeChar (Char.ofNat (((k * 64 + l) * 64 + m) * 64 + n)) =
      [UInt8.ofNat (k + 0xF0), trail l, trail m, trail n] := by
  have hc := toNat_charOfNat (n := ((k * 64 + l) * 64 + m) * 64 + n) (by omega)
  rcases utf8EncodeChar_cases (Char.ofNat (((k * 64 + l) * 64 + m) * 64 + n)) with ⟨h, -⟩ | ⟨-, h, -⟩ | ⟨-, h, -⟩ | ⟨-, he⟩
  · omega
  · omega
  · omega
  · rw [he, hc, show (((k * 64 + l) * 64 + m) * 64 + n) / 262144 = k by omega,
      trail_congr (show (((k * 64 + l) * 64 + m) * 64 + n) / 4096 % 64 = l % 64 by omega),
      trail_congr (show (((k * 64 + l) * 64 + m) * 64 + n) / 64 % 64 = m % 64 by omega),
      trail_congr (show (((k * 64 + l) * 64 + m) * 64 + n) % 64 = n % 64 by omega)]

/-- A first byte and what can be decoded behind it begin with a character. -/
theorem exists_char_of_lead {position : Nat} {b : UInt8} {bytes : List UInt8} {p : Pending} {t : Text}
    (hp : lead? b position = some p) (h : decodeFrom (position + 1) (some p) bytes = .ok t) :
    ∃ c rest, b :: bytes = String.utf8EncodeChar c ++ rest := by
  obtain ⟨hfirst, hlast⟩ := bounds_of_lead? hp
  have hb : ∀ k, b.toNat = k → b = UInt8.ofNat k := by
    rintro k rfl
    exact UInt8.ofNat_toNat.symm
  rcases (by omega : b.toNat < 0xE0 ∨ (0xE0 ≤ b.toNat ∧ b.toNat < 0xF0) ∨ 0xF0 ≤ b.toNat) with htwo | ⟨hthree, hend⟩ | hfour
  · obtain ⟨k, hk⟩ := Nat.exists_eq_add_of_le' (show 0xC0 ≤ b.toNat by omega)
    obtain rfl := hb _ hk
    obtain rfl := Option.some.inj (hp.symm.trans (lead?_two position k (by omega) (by omega)))
    obtain ⟨n, hn, rest, rfl, -⟩ := exists_trail le_rfl le_rfl h
    exact ⟨Char.ofNat (k * 64 + n), rest, by rw [utf8EncodeChar_two (by omega) (by omega) hn]; rfl⟩
  · obtain ⟨k, hk⟩ := Nat.exists_eq_add_of_le' hthree
    obtain rfl := hb _ hk
    obtain rfl := Option.some.inj (hp.symm.trans (lead?_three position k (by omega)))
    obtain ⟨m, hm, rest', rfl, hlow, hhigh⟩ := exists_trail (by dsimp only; split_ifs <;> decide)
      (by dsimp only; split_ifs <;> decide) h
    rw [decodeFrom_trail hlow hhigh _ _ (Nat.succ_lt_succ (Nat.succ_pos _))] at h
    obtain ⟨n, hn, rest, rfl, -⟩ := exists_trail le_rfl le_rfl h
    refine ⟨Char.ofNat ((k * 64 + m) * 64 + n), rest, ?_⟩
    rw [utf8EncodeChar_three (by omega) hm hn]
    · rfl
    · rintro rfl
      change 0xA0 ≤ _ at hlow
      omega
    · rintro rfl
      change _ ≤ 0x9F at hhigh
      omega
  · obtain ⟨k, hk⟩ := Nat.exists_eq_add_of_le' hfour
    obtain rfl := hb _ hk
    obtain rfl := Option.some.inj (hp.symm.trans (lead?_four position k (by omega)))
    obtain ⟨l, hl, rest', rfl, hlow, hhigh⟩ := exists_trail (by dsimp only; split_ifs <;> decide)
      (by dsimp only; split_ifs <;> decide) h
    rw [decodeFrom_trail hlow hhigh _ _ (Nat.succ_lt_succ (Nat.succ_pos _))] at h
    obtain ⟨m, hm, rest', rfl, hm'⟩ := exists_trail le_rfl le_rfl h
    rw [decodeFrom_trail hm'.1 hm'.2 _ _ (Nat.succ_lt_succ (Nat.succ_pos _))] at h
    obtain ⟨n, hn, rest, rfl, -⟩ := exists_trail le_rfl le_rfl h
    refine ⟨Char.ofNat (((k * 64 + l) * 64 + m) * 64 + n), rest, ?_⟩
    rw [utf8EncodeChar_four (by omega) hl hm hn]
    · rfl
    · rintro rfl
      change 0x90 ≤ _ at hlow
      omega
    · rintro rfl
      change _ ≤ 0x8F at hhigh
      omega

/-- What can be decoded begins with a character. -/
theorem exists_char {position : Nat} {b : UInt8} {bytes : List UInt8} {t : Text}
    (h : decodeFrom position none (b :: bytes) = .ok t) : ∃ c rest, b :: bytes = String.utf8EncodeChar c ++ rest := by
  by_cases hascii : b.toNat < 0x80
  · refine ⟨Char.ofNat b.toNat, bytes, ?_⟩
    have hn := toNat_charOfNat (n := b.toNat) (by omega)
    rcases utf8EncodeChar_cases (Char.ofNat b.toNat) with ⟨-, he⟩ | ⟨h1, -⟩ | ⟨h1, -⟩ | ⟨h1, -⟩
    · rw [he, hn, UInt8.ofNat_toNat, List.singleton_append]
    all_goals omega
  · cases hp : lead? b position with
    | none =>
      have : ¬ b < 0x80 := by rwa [UInt8.lt_iff_toNat_lt]
      simp [decodeFrom, this, hp] at h
    | some p =>
      rw [decodeFrom_lead (Nat.not_lt.1 hascii) hp] at h
      exact exists_char_of_lead hp h

theorem eq_encode_of_decodeFrom {position : Nat} {bytes : List UInt8} {t : Text}
    (h : decodeFrom position none bytes = .ok t) : bytes = encode t := by
  -- one character after the other, of one byte or more
  induction hn : bytes.length using Nat.strongRecOn generalizing position bytes t with
  | ind n ih =>
    cases bytes with
    | nil =>
      obtain rfl := Except.ok.inj h
      rfl
    | cons b bytes =>
      obtain ⟨c, rest, hsplit⟩ := exists_char h
      rw [hsplit, decodeFrom_char] at h
      cases hrest : decodeFrom (position + (String.utf8EncodeChar c).length) none rest with
      | error e =>
        rw [hrest] at h
        simp at h
      | ok t' =>
        rw [hrest] at h
        obtain rfl := Except.ok.inj h
        have hpos : 0 < (String.utf8EncodeChar c).length := by simp [c.utf8Size_pos]
        have hlt : rest.length < n := by
          rw [← hn, hsplit, List.length_append]
          omega
        rw [hsplit, ih _ hlt hrest rfl]
        rfl

/-- The bytes that can be decoded are those of a text. -/
theorem decode_eq_ok_iff {bytes : List UInt8} {t : Text} : decode bytes = .ok t ↔ bytes = encode t :=
  ⟨eq_encode_of_decodeFrom, fun h => h ▸ decode_encode t⟩

end Stepper.Utf8

namespace Stepper.Text

theorem withLineFeeds_of_notMem {t : Text} (h : '\r' ∉ t) : withLineFeeds t = t := by
  induction t with
  | nil => rfl
  | cons c t ih =>
    have hc : c ≠ '\r' := fun h0 => h (by simp [h0])
    rw [withLineFeeds, ih fun h0 => h (by simp [h0])]
    · exact fun _ h0 => absurd h0 hc
    · exact fun h0 => absurd h0 hc

end Stepper.Text

namespace Stepper.Utf8

/-- The bytes that can be read as a text are those of some text. -/
theorem readText_eq_ok_iff {bytes : List UInt8} {text : Text} :
    readText bytes = .ok text ↔ ∃ t, bytes = encode t ∧ text = Text.withLineFeeds t := by
  constructor
  · intro h
    cases hdecode : decode bytes with
    | error e =>
      rw [readText, hdecode] at h
      simp at h
    | ok t =>
      rw [readText, hdecode] at h
      exact ⟨t, decode_eq_ok_iff.1 hdecode, (Except.ok.inj h).symm⟩
  · rintro ⟨t, rfl, rfl⟩
    rw [readText, decode_encode, Except.map_ok]

theorem readText_encode {t : Text} (h : '\r' ∉ t) : readText (encode t) = .ok t := by
  rw [readText, decode_encode, Except.map_ok, Text.withLineFeeds_of_notMem h]

end Stepper.Utf8
