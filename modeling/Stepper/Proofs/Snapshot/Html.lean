import Stepper.Numeral.Basic
import Stepper.Proofs.Text.Mark
import Stepper.Snapshot.Html

/-! Reading a page: what its character references stand for, what stands between two marks, and which tags it has. A text
that was escaped is read back as it was, and it has no tags. -/

namespace Stepper.Html

open Asm Numeral

/-! ### Character references -/

/-- What the names and numbers of references stand for. A few names are known without the semicolon, too, so it belongs
to the name. -/
structure References where
  named : Text → Option Text
  coded : Nat → Text
  amp : named "amp;" = some ['&']
  lt : named "lt;" = some ['<']
  gt : named "gt;" = some ['>']
  quot : named "quot;" = some ['"']
  apostrophe : coded 0x27 = ['\'']

/-- A character that the name of a reference may have. -/
def isNamed (c : Char) : Bool :=
  !(['\t', '\n', '\x0C', ' ', '<', '&', '#', ';'].contains c)

def semicolon (t : Text) : Nat :=
  if t.head? = some ';' then 1 else 0

namespace References

variable (R : References)

/-- A reference by digits behind `skipped` characters, and the length of all. -/
def numbered? (skipped base : Nat) (isDigit : Char → Bool) (t : Text) : Option (Text × Nat) :=
  let digits := t.takeWhile isDigit
  if digits.isEmpty then none
  else some (R.coded (ofDigits base (leadingDigits hexDigit? digits)),
    skipped + digits.length + semicolon (t.drop digits.length))

/-- What the longest front of a name stands for, from a length on, and the rest of the name. -/
def longest? (name : Text) : Nat → Option Text
  | 0 => none
  | 1 => none
  | n + 2 => ((R.named (name.take (n + 2))).map (· ++ name.drop (n + 2))).or (longest? name (n + 1))

def valueOf (name : Text) : Text :=
  (R.named name).getD ((R.longest? name (name.length - 1)).getD ('&' :: name))

/-- The reference behind an ampersand: what it stands for, and its length. -/
def read? (t : Text) : Option (Text × Nat) :=
  match t with
  | '#' :: rest =>
    (R.numbered? 1 10 Char.isDigit rest).or
      (match rest with
        | x :: behind => if x = 'x' ∨ x = 'X' then R.numbered? 2 16 isHexDigit behind else none
        | [] => none)
  | _ =>
    let name := (t.take 32).takeWhile isNamed
    if name.isEmpty then none
    else
      let matched := t.take (name.length + semicolon (t.drop name.length))
      some (R.valueOf matched, matched.length)

/-- `skip` counts the characters of a reference that are still to be passed over. -/
def unescapeFrom (skip : Nat) : Text → Text
  | [] => []
  | c :: rest =>
    match skip with
    | k + 1 => unescapeFrom k rest
    | 0 =>
      if c = '&' then
        match R.read? rest with
        | some (value, length) => value ++ unescapeFrom length rest
        | none => c :: unescapeFrom 0 rest
      else c :: unescapeFrom 0 rest

/-- A text with what its references stand for in their places. -/
def unescape (t : Text) : Text :=
  R.unescapeFrom 0 t

theorem unescapeFrom_length (w t : Text) : R.unescapeFrom w.length (w ++ t) = R.unescape t := by
  induction w with
  | nil => rfl
  | cons c w ih => exact ih

/-- A reference is replaced by what it stands for. -/
theorem unescape_of_read? {w t value : Text} (h : R.read? (w ++ t) = some (value, w.length)) :
    R.unescape ('&' :: (w ++ t)) = value ++ R.unescape t := by
  rw [unescape, unescapeFrom]
  simp only [h, if_true, R.unescapeFrom_length]

/-- A reference by a name with its semicolon is read up to there. -/
theorem unescape_named (name : Text) {value : Text} (ne : name ≠ []) (hname : ∀ c ∈ name, isNamed c = true)
    (hshort : name.length < 32) (hvalue : R.named (name ++ [';']) = some value) (t : Text) :
    R.unescape ('&' :: (name ++ ';' :: t)) = value ++ R.unescape t := by
  have hsplit : name ++ ';' :: t = (name ++ [';']) ++ t := by simp
  rw [hsplit]
  refine R.unescape_of_read? ?_
  have hfront : (((name ++ [';']) ++ t).take 32).takeWhile isNamed = name := by
    rw [← hsplit, List.take_append, List.take_of_length_le (Nat.le_of_lt hshort), List.takeWhile_append_of_pos hname]
    obtain ⟨k, hk⟩ := Nat.exists_eq_succ_of_ne_zero (Nat.sub_ne_zero_of_lt hshort)
    rw [hk, List.take_succ_cons, List.takeWhile_cons_of_neg (by decide), List.append_nil]
  have hbehind : ((name ++ [';']) ++ t).drop name.length = ';' :: t := by
    rw [← hsplit, List.drop_left]
  have hmatched : ((name ++ [';']) ++ t).take (name.length + 1) = name ++ [';'] := by
    rw [List.take_left' (by simp)]
  obtain ⟨c, rest, rfl⟩ := List.exists_cons_of_ne_nil ne
  unfold read?
  split
  · next rest' hhash =>
    obtain ⟨rfl, -⟩ := List.cons.inj hhash
    exact absurd (hname '#' (by simp)) (by decide)
  · have hmatch : R.valueOf (c :: rest ++ [';']) = value := by
      rw [valueOf, hvalue]
      rfl
    simp only [hfront, hbehind, semicolon, List.head?_cons, if_true, hmatched, List.isEmpty_cons, Bool.false_eq_true,
      if_false, hmatch]

theorem unescape_cons {c : Char} (hc : c ≠ '&') (t : Text) : R.unescape (c :: t) = c :: R.unescape t := by
  rw [unescape, unescapeFrom]
  simp only [if_neg hc]
  rfl

theorem unescape_append {a : Text} (ha : '&' ∉ a) (t : Text) : R.unescape (a ++ t) = a ++ R.unescape t := by
  induction a with
  | nil => rfl
  | cons c a ih =>
    rw [List.mem_cons, not_or] at ha
    rw [List.cons_append, R.unescape_cons (Ne.symm ha.1), ih ha.2, List.cons_append]

theorem read?_apostrophe (t : Text) : R.read? ("#x27;" ++ t) = some (R.coded 0x27, 5) := rfl

theorem unescape_escapeChar (c : Char) (t : Text) : R.unescape (escapeChar c ++ t) = c :: R.unescape t := by
  unfold escapeChar
  split
  · exact R.unescape_named "amp" (by decide) (by decide) (by decide) R.amp t
  · exact R.unescape_named "lt" (by decide) (by decide) (by decide) R.lt t
  · exact R.unescape_named "gt" (by decide) (by decide) (by decide) R.gt t
  · exact R.unescape_named "quot" (by decide) (by decide) (by decide) R.quot t
  · exact R.unescape_of_read? ((R.read?_apostrophe t).trans (by rw [R.apostrophe]; rfl))
  · next hamp _ _ _ _ => exact R.unescape_cons hamp t

/-- What was escaped is read back. -/
theorem unescape_escape (t : Text) : R.unescape (escape t) = t := by
  induction t with
  | nil => rfl
  | cons c t ih =>
    rw [escape, List.flatMap_cons, R.unescape_escapeChar]
    exact congrArg _ ih

end References

/-- A character that is no part of markup or of a text in quotes. -/
def Inert (c : Char) : Prop := c ≠ '<' ∧ c ≠ '>' ∧ c ≠ '"' ∧ c ≠ '\''

instance (c : Char) : Decidable (Inert c) := inferInstanceAs (Decidable (_ ∧ _))

theorem inert_of_mem_escape {t : Text} {c : Char} (h : c ∈ escape t) : Inert c := by
  obtain ⟨d, -, hc⟩ := List.mem_flatMap.1 h
  have hreference : ∀ w : Text, (∀ e ∈ w, Inert e) → c ∈ w → Inert c := fun w hw => hw c
  unfold escapeChar at hc
  split at hc
  · exact hreference _ (by decide) hc
  · exact hreference _ (by decide) hc
  · exact hreference _ (by decide) hc
  · exact hreference _ (by decide) hc
  · exact hreference _ (by decide) hc
  · next hlt hgt hquot hapostrophe =>
    obtain rfl := List.mem_singleton.1 hc
    exact ⟨hlt, hgt, hquot, hapostrophe⟩

/-- Escaping puts no line feed into a text. -/
theorem lineFeed_notMem_escape {t : Text} (h : '\n' ∉ t) : '\n' ∉ escape t := by
  intro hmem
  obtain ⟨d, hd, hc⟩ := List.mem_flatMap.1 hmem
  unfold escapeChar at hc
  split at hc
  · exact absurd hc (by decide)
  · exact absurd hc (by decide)
  · exact absurd hc (by decide)
  · exact absurd hc (by decide)
  · exact absurd hc (by decide)
  · obtain rfl := List.mem_singleton.1 hc
    exact h hd

/-! ### Marks -/

/-- What stands behind the first mark. -/
def behind? (mark : Text) : Text → Option Text
  | [] => none
  | c :: rest => if mark.isPrefixOf (c :: rest) then some ((c :: rest).drop mark.length) else behind? mark rest

/-- What stands between the first opening mark and the next closing one. -/
def between? (opening closing page : Text) : Option Text :=
  (behind? opening page).map (Asm.cutAt closing)

variable {mark : Text}

/-- Two texts differ at a place that both have. -/
def parts : Text → Text → Bool
  | c :: t, d :: u => !Nat.beq c.toNat d.toNat || parts t u
  | _, _ => false

theorem not_prefix_of_parts {t u : Text} (h : parts t u = true) (v : Text) : ¬ t <+: u ++ v := by
  fun_induction parts t u with
  | case1 c t d u ih =>
    intro hprefix
    obtain ⟨rfl, htail⟩ := List.cons_prefix_cons.1 hprefix
    have hsame : Nat.beq c.toNat c.toNat = true := Nat.beq_refl _
    exact ih (by simpa [hsame] using h) htail
  | case2 => simp at h

/-- The mark differs from the text, wherever it is held against it. -/
def isClear (mark : Text) : Text → Bool
  | [] => true
  | c :: rest => parts mark (c :: rest) && isClear mark rest

theorem clear_of_isClear {t : Text} (h : isClear mark t = true) : Clear mark t := by
  induction t with
  | nil => exact clear_nil
  | cons c t ih =>
    rw [isClear, Bool.and_eq_true] at h
    intro u ne hu v
    rcases List.suffix_cons_iff.1 hu with rfl | hu
    · exact not_prefix_of_parts h.1 v
    · exact ih h.2 u ne hu v

theorem behind?_append {a : Text} (h : Clear mark a) (t : Text) : behind? mark (a ++ t) = behind? mark t := by
  induction a with
  | nil => rfl
  | cons c a ih =>
    have hno : ¬ mark.isPrefixOf (c :: (a ++ t)) = true := by
      rw [List.isPrefixOf_iff_prefix]
      exact h (c :: a) (by simp) (List.suffix_refl _) t
    rw [List.cons_append, behind?, if_neg hno, ih h.tail]

theorem behind?_mark (ne : mark ≠ []) (t : Text) : behind? mark (mark ++ t) = some t := by
  obtain ⟨c, m, rfl⟩ := List.exists_cons_of_ne_nil ne
  have hprefix : (c :: m).isPrefixOf (c :: (m ++ t)) = true := List.isPrefixOf_iff_prefix.2 (List.prefix_append (c :: m) t)
  rw [List.cons_append, behind?, if_pos hprefix, ← List.cons_append, List.drop_left]

/-- Between two marks stands what was put between them, if neither mark begins earlier. -/
theorem between?_eq {opening closing front body : Text} (hopening : opening ≠ []) (hclosing : closing ≠ [])
    (hfront : Clear opening front) (hbody : Clear closing body) (rest : Text) :
    between? opening closing (front ++ (opening ++ (body ++ (closing ++ rest)))) = some body := by
  rw [between?, behind?_append hfront, behind?_mark hopening, Option.map_some, cutAt_append hbody, cutAt_mark hclosing,
    List.append_nil]

/-! ### Tags -/

/-- The tags of a page so far, and the one that has begun. -/
structure Tags where
  closed : List Text
  begun : Option Text
  deriving DecidableEq

namespace Tags

def step (s : Tags) (c : Char) : Tags :=
  match s.begun with
  | none => if c = '<' then { s with begun := some [] } else s
  | some tag => if c = '>' then ⟨s.closed ++ [tag], none⟩ else { s with begun := some (tag ++ [c]) }

def scan (s : Tags) (t : Text) : Tags :=
  t.foldl step s

theorem scan_append (s : Tags) (a b : Text) : s.scan (a ++ b) = (s.scan a).scan b :=
  List.foldl_append

/-- Behind the end of a tag no tag has begun. -/
theorem begun_scan_close (s : Tags) (t : Text) : (s.scan (t ++ ['>'])).begun = none := by
  rw [scan_append]
  generalize s.scan t = s'
  obtain ⟨closed, begun⟩ := s'
  cases begun <;> rfl

/-- A text without markup is no part of a tag. -/
theorem scan_inert {s : Tags} (hs : s.begun = none) {t : Text} (ht : ∀ c ∈ t, Inert c) : s.scan t = s := by
  induction t with
  | nil => rfl
  | cons c t ih =>
    have hstep : s.step c = s := by
      rw [step, hs]
      exact if_neg (ht c (by simp)).1
    rw [scan, List.foldl_cons, hstep]
    exact ih fun d hd => ht d (by simp [hd])

end Tags

/-- All tags of a page, and what of a tag its end cuts off. -/
def tags (page : Text) : Tags :=
  Tags.scan ⟨[], none⟩ page

end Stepper.Html
