import Stepper.Machine.Word
import Stepper.Proofs.Asm.Immediate
import Stepper.Proofs.Asm.Splitting

/-! What an operand stands for once it is spelled anew. Registers, integers and memory operands keep their
kind, and a label becomes the integer that is its address. An operand that nothing can be done with may
become anything. -/

namespace Stepper.Asm

open Numeral Text Unicode

/-! ### Kinds of operands -/

/-- The names that stand for registers. -/
def keywords : List Text :=
  registerNames.map (·.1) ++ zeroNames

theorem mem_keywords_of_registerNamed? {name : Text} {r : Reg} (h : registerNamed? name = some r) : name ∈ keywords := by
  obtain ⟨l₁, l₂, heq, -⟩ := List.lookup_eq_some_iff.1 h
  refine List.mem_append_left _ (List.mem_map.2 ⟨(name, r), ?_, rfl⟩)
  simp [heq]

theorem exists_registerNamed? {name : Text} (h : name ∈ registerNames.map (·.1)) : ∃ r, registerNamed? name = some r := by
  cases hr : registerNamed? name with
  | some r => exact ⟨r, rfl⟩
  | none =>
    obtain ⟨x, hx, rfl⟩ := List.mem_map.1 h
    have := List.lookup_eq_none_iff.1 hr x hx
    simp at this

theorem isNameStart_of_keyword {c : Char} {t : Text} (h : c :: t ∈ keywords) : isNameStart c = true := by
  have hall : ∀ n ∈ keywords, n.head?.all isNameStart = true := by decide +kernel
  exact hall _ h

theorem keyword_spelling : ∀ n ∈ keywords, n ≠ [] ∧ (∀ c ∈ n, isNameChar c = true) ∧
    Source.renameRegisters false n = n ∧ n.map Char.toLower = n := by
  decide +kernel

theorem lower_of_keyword {n : Text} (h : n ∈ keywords) : lower n = n := by
  obtain ⟨-, hchars, -, hlower⟩ := keyword_spelling n h
  rw [lower_of_ascii fun c hc => ascii_of_isNameChar (hchars c hc), hlower]

/-- The parts of a memory operand: the base and at most one offset. -/
inductive MemoryParts : List Text → Reg → Option Digits → Prop
  | base {b : Text} {r : Reg} (hb : registerNamed? (lower b) = some r) : MemoryParts [b] r none
  | offset {b o : Text} {r : Reg} {d : Digits} (hb : registerNamed? (lower b) = some r)
    (ho : immediateDigits? o = some d) : MemoryParts [b, o] r (some d)

/-- Without an offset the offset is zero. -/
def offsetValue (d : Option Digits) : Except DigitError Int :=
  d.elim (.ok 0) Digits.value

theorem immediate?_of_digits {t : Text} {d : Digits} (h : immediateDigits? t = some d) :
    immediate? t = d.value.map some := by
  rw [immediate?, h]

theorem memory?_of_parts {inside : Text} {r : Reg} {d : Option Digits}
    (h : MemoryParts ((splitOn ',' inside).map trim) r d) :
    memory? inside = (offsetValue d).map fun v => some (.mem r v) := by
  unfold memory?
  generalize (splitOn ',' inside).map trim = parts at h
  cases h with
  | base hb => simp [hb, offsetValue, Except.map]
  | @offset b o r d hb ho =>
    simp only [hb, immediate?_of_digits ho, offsetValue, Option.elim]
    cases d.value <;> rfl

theorem parts_of_memory? {inside : Text} {k : OperandKind} (h : memory? inside = .ok (some k)) :
    ∃ r d v, MemoryParts ((splitOn ',' inside).map trim) r d ∧ offsetValue d = .ok v ∧ k = .mem r v := by
  unfold memory? at h
  split at h
  · next b heq =>
    obtain ⟨r, hr, rfl⟩ := Option.map_eq_some_iff.1 (Except.ok.inj h)
    exact ⟨r, none, 0, heq ▸ .base hr, rfl, rfl⟩
  · next b o heq =>
    split at h
    · next r hr =>
      cases ho : immediateDigits? o with
      | none => simp [immediate?, ho, Except.map] at h
      | some d =>
        rw [immediate?_of_digits ho] at h
        cases hv : d.value with
        | error cause => simp [hv, Except.map] at h
        | ok v =>
          rw [hv] at h
          exact ⟨r, some d, v, heq ▸ .offset hr ho, hv, (Option.some.inj (Except.ok.inj h)).symm⟩
    · simp at h
  · simp at h

theorem bracketed?_eq_some_iff {t inside : Text} : bracketed? t = some inside ↔ t = '[' :: (inside ++ [']']) := by
  unfold bracketed?
  constructor
  · intro h
    split at h
    · next rest =>
      split at h
      · next hlast =>
        rw [← Option.some.inj h]
        obtain ⟨front, rfl⟩ := List.getLast?_eq_some_iff.1 hlast
        simp
      · simp at h
    · simp at h
  · rintro rfl
    simp

/-- The ways in which an operand is read. -/
inductive ReadAs (raw : Text) : OperandKind → Prop
  | reg {r : Reg} (h : registerNamed? (lower raw) = some r) : ReadAs raw (.reg r)
  | zero (hr : registerNamed? (lower raw) = none) (h : lower raw ∈ zeroNames) : ReadAs raw .zero
  | mem {inside : Text} {r : Reg} {d : Option Digits} {v : Int} (hraw : raw = '[' :: (inside ++ [']']))
    (h : MemoryParts ((splitOn ',' inside).map trim) r d) (value : offsetValue d = .ok v) : ReadAs raw (.mem r v)
  | imm {d : Digits} {v : Int} (h : immediateDigits? raw = some d) (value : d.value = .ok v) : ReadAs raw (.imm v)
  | label (h : isName raw = true) : ReadAs raw (.label (lower raw))
  | unsupported : ReadAs raw .unsupported

theorem readAs {raw : Text} {k : OperandKind} (h : OperandKind.read raw = .ok k) : ReadAs raw k := by
  unfold OperandKind.read at h
  dsimp only at h
  split at h
  · next r hr =>
    obtain rfl := Except.ok.inj h
    exact .reg hr
  · next hr =>
    split at h
    · next hz =>
      obtain rfl := Except.ok.inj h
      exact .zero hr (List.contains_iff_mem.1 hz)
    · split at h
      · next inside hin =>
        cases hm : memory? inside with
        | error cause => simp [hm, Except.map] at h
        | ok found =>
          rw [hm] at h
          obtain rfl := Except.ok.inj h
          cases found with
          | none => exact .unsupported
          | some k =>
            obtain ⟨r, d, v, hparts, hv, rfl⟩ := parts_of_memory? hm
            exact .mem (bracketed?_eq_some_iff.1 hin) hparts hv
      · cases hd : immediateDigits? raw with
        | some d =>
          rw [immediate?_of_digits hd] at h
          cases hv : d.value with
          | error cause => simp [hv, Except.map] at h
          | ok v =>
            rw [hv] at h
            obtain rfl := Except.ok.inj h
            exact .imm hd hv
        | none =>
          rw [immediate?, hd] at h
          obtain rfl := Except.ok.inj h
          dsimp only
          split
          · next hn => exact .label hn
          · exact .unsupported

theorem not_keyword_of_head {c : Char} {t : Text} (h : isNameStart c = false) :
    registerNamed? (c :: t) = none ∧ c :: t ∉ zeroNames := by
  have hkey : c :: t ∉ keywords := fun hk => by simp [isNameStart_of_keyword hk] at h
  refine ⟨?_, fun hz => hkey (List.mem_append_right _ hz)⟩
  cases hr : registerNamed? (c :: t) with
  | none => rfl
  | some r => exact absurd (mem_keywords_of_registerNamed? hr) hkey

theorem WrittenInt.head {t : Text} {d : Digits} (h : WrittenInt t d) :
    ∃ c rest, t = c :: rest ∧ isNameStart c = false := by
  obtain ⟨front, digits, hfront, rfl, hdigits, -⟩ := h.shape
  cases front with
  | nil =>
    obtain ⟨c, rest, rfl, hc⟩ := hdigits.head
    exact ⟨c, rest, rfl, Source.not_isNameStart_of_isDigit hc⟩
  | cons c front =>
    have hstart : ∀ f ∈ [[], ['#'], ['-'], ['#', '-']], ∀ c ∈ f, isNameStart c = false := by decide
    exact ⟨c, front ++ digits, rfl, hstart _ hfront c (by simp)⟩

theorem WrittenInt.immediateDigits? {t : Text} {d : Digits} (h : WrittenInt t d) : immediateDigits? t = some d := by
  rw [immediateDigits?_eq_some_iff, trim_of_trimmed h.stopless.2.solid.trimmed]
  exact h

/-- A written integer is read as its value, if its digits are not too many. -/
theorem read_writtenInt {t : Text} {d : Digits} (h : WrittenInt t d) : OperandKind.read t = d.value.map .imm := by
  obtain ⟨c, rest, hlower, hc⟩ := h.lower.head
  obtain ⟨hr, hz⟩ := not_keyword_of_head (t := rest) hc
  have hb : bracketed? t = none := by
    cases hb : bracketed? t with
    | none => rfl
    | some inside =>
      have hs := h.stopless.2
      rw [bracketed?_eq_some_iff.1 hb] at hs
      exact absurd (hs '[' (by simp)) (by decide)
  unfold OperandKind.read
  simp only [hlower, hr, List.contains_iff_mem, hz, if_false, hb, immediate?_of_digits h.immediateDigits?]
  cases d.value <;> rfl

theorem read_memory {inside : Text} {r : Reg} {d : Option Digits}
    (h : MemoryParts ((splitOn ',' inside).map trim) r d) :
    OperandKind.read ('[' :: (inside ++ [']'])) = (offsetValue d).map (.mem r) := by
  have hlower : lower ('[' :: (inside ++ [']'])) = '[' :: lower (inside ++ [']']) := piecewise_lower.cons_stop (by decide) _
  obtain ⟨hr, hz⟩ := not_keyword_of_head (t := lower (inside ++ [']'])) (show isNameStart '[' = false by decide)
  have hb := bracketed?_eq_some_iff.2 (rfl : '[' :: (inside ++ [']']) = '[' :: (inside ++ [']']))
  unfold OperandKind.read
  simp only [hlower, hr, List.contains_iff_mem, hz, if_false, hb, memory?_of_parts h]
  cases offsetValue d <;> rfl

/-- The integer in an operand: the operand itself, or the offset behind a base register. -/
inductive IntegerIn (raw : Text) (d : Digits) : Prop
  | alone (h : WrittenInt raw d)
  | offset {inside : Text} {r : Reg} (hraw : raw = '[' :: (inside ++ [']']))
    (h : MemoryParts ((splitOn ',' inside).map trim) r (some d))

/-- An operand has an integer with more decimal digits than can be read. -/
def LongOperand (raw : Text) : Prop :=
  ∃ d, IntegerIn raw d ∧ d.TooMany

theorem memory?_error {inside : Text} {cause : DigitError} (h : memory? inside = .error cause) :
    ∃ r d, MemoryParts ((splitOn ',' inside).map trim) r (some d) ∧ d.value = .error cause := by
  unfold memory? at h
  split at h
  · simp at h
  · next b o heq =>
    split at h
    · next r hr =>
      cases ho : immediateDigits? o with
      | none => simp [immediate?, ho, Except.map] at h
      | some d =>
        rw [immediate?_of_digits ho] at h
        cases hv : d.value with
        | ok v => simp [hv, Except.map] at h
        | error other =>
          rw [hv] at h
          obtain rfl := Except.error.inj h
          exact ⟨r, d, heq ▸ .offset hr ho, hv⟩
    · simp at h
  · simp at h

/-- An operand cannot be read exactly if the integer in it has too many digits. -/
theorem read_eq_error_iff {raw : Text} (ht : Trimmed raw) {cause : DigitError} :
    OperandKind.read raw = .error cause ↔ ∃ d, IntegerIn raw d ∧ d.value = .error cause := by
  constructor
  · intro h
    unfold OperandKind.read at h
    dsimp only at h
    split at h
    · simp at h
    · split at h
      · simp at h
      · split at h
        · next inside hin =>
          cases hm : memory? inside with
          | ok found => simp [hm, Except.map] at h
          | error other =>
            rw [hm] at h
            obtain rfl := Except.error.inj h
            obtain ⟨r, d, hparts, hd⟩ := memory?_error hm
            exact ⟨d, .offset (bracketed?_eq_some_iff.1 hin) hparts, hd⟩
        · cases hd : immediateDigits? raw with
          | none => simp [immediate?, hd, Except.map] at h
          | some d =>
            rw [immediate?_of_digits hd] at h
            rw [immediateDigits?_eq_some_iff, trim_of_trimmed ht] at hd
            refine ⟨d, .alone hd, ?_⟩
            cases hv : d.value with
            | ok v => simp [hv, Except.map] at h
            | error other =>
              rw [hv] at h
              exact congrArg Except.error (Except.error.inj h)
  · rintro ⟨d, hd | ⟨rfl, hparts⟩, hv⟩
    · rw [read_writtenInt hd, hv]
      rfl
    · rw [read_memory hparts, offsetValue, Option.elim, hv]
      rfl

theorem longOperand_iff {raw : Text} (ht : Trimmed raw) : LongOperand raw ↔ ∃ cause, OperandKind.read raw = .error cause := by
  simp only [read_eq_error_iff ht, Digits.value_eq_error_iff]
  exact ⟨fun ⟨d, hd, hlong⟩ => ⟨_, d, hd, hlong, rfl⟩, fun ⟨_, d, hd, hlong, _⟩ => ⟨d, hd, hlong⟩⟩

/-- What begins as a name does has no digits that could be too many. -/
theorem exists_read_of_head {c : Char} {t : Text} (hs : Stopless (c :: t)) (hc : isNameStart c = true) :
    ∃ k, OperandKind.read (c :: t) = .ok k := by
  have hb : bracketed? (c :: t) = none := by
    cases hb : bracketed? (c :: t) with
    | none => rfl
    | some inside =>
      rw [bracketed?_eq_some_iff.1 hb] at hs
      exact absurd (hs '[' (by simp)) (by decide)
  have hd : immediateDigits? (c :: t) = none := by
    cases hd : immediateDigits? (c :: t) with
    | none => rfl
    | some d =>
      rw [immediateDigits?_eq_some_iff, trim_of_trimmed hs.solid.trimmed] at hd
      obtain ⟨c', rest, heq, hno⟩ := hd.head
      obtain ⟨rfl, -⟩ := List.cons.inj heq
      simp [hc] at hno
  unfold OperandKind.read
  simp only [hb, immediate?, hd, Except.map]
  split
  · exact ⟨_, rfl⟩
  · split <;> exact ⟨_, rfl⟩

namespace Source

/-! ### Words -/

theorem replaceName_skip {name value : Text} {t : Text} {k : Nat} (h : t.length ≤ k) (before : Option Char) :
    replaceName name value before k t = [] := by
  induction t generalizing before k with
  | nil => rfl
  | cons c t ih =>
    cases k with
    | zero => simp at h
    | succ k => exact ih (by simpa using h) (some c)

/-- A word is replaced as a whole or not at all. -/
theorem replaceName_word {name value t : Text} (ne : name ≠ []) (ht : ∀ c ∈ t, joinsName c = true) :
    replaceName name value none 0 t = if t = name then value else t := by
  cases t with
  | nil => simp [replaceName, Ne.symm ne]
  | cons c t =>
    have hrest : ∀ d ∈ t, joinsName d = true := fun d hd => ht d (by simp [hd])
    have hinside : replaceName name value (some c) 0 t = t := replaceName_inside (ht c (by simp)) hrest
    by_cases heq : c :: t = name
    · have hskip : t.length ≤ name.length - 1 := by simp [← heq]
      simp [replaceName, startsBare, heq, endsBare, replaceName_skip hskip]
    · have hno : (name.isPrefixOf (c :: t) && endsBare ((c :: t).drop name.length)) = false := by
        by_contra h
        obtain ⟨hp, he⟩ : name.isPrefixOf (c :: t) = true ∧ endsBare ((c :: t).drop name.length) = true := by
          simpa using h
        obtain ⟨r, hr⟩ := List.isPrefixOf_iff_prefix.1 hp
        rw [← hr, List.drop_left] at he
        cases r with
        | nil => exact heq (by simpa using hr.symm)
        | cons d r =>
          have hd := ht d (by rw [← hr]; simp)
          simp [endsBare, hd] at he
      rw [replaceName]
      simp only [startsBare, Bool.true_and]
      rw [hno, if_neg (by simp), hinside, if_neg heq]

theorem joinsName_of_isNameChar {c : Char} (h : isNameChar c = true) : joinsName c = true :=
  of_ascii (P := fun c => isNameChar c = true → joinsName c = true) (by decide +kernel) (ascii_of_isNameChar h) h

variable {base : Int} {labels : List (Text × Nat)}

theorem resolve_cons (l : Text × Nat) (t : Text) :
    resolve base (l :: labels) t =
      resolve base labels (replaceName l.1 (shown (base + l.2 * instructionSize)) none 0 t) := rfl

theorem resolve_of_no_label (hl : Named labels) {t : Text} (ht : ∀ c ∈ t, joinsName c = true)
    (hno : ∀ l ∈ labels, l.1 ≠ t) : resolve base labels t = t := by
  induction labels with
  | nil => rfl
  | cons l labels ih =>
    have hne := Ne.symm (hno l (by simp))
    rw [resolve_cons, replaceName_word (hl l (by simp)).ne_nil ht, if_neg hne]
    exact ih (fun m hm => hl m (by simp [hm])) fun m hm => hno m (by simp [hm])

theorem resolve_label (hb : 0 ≤ base) (hl : Named labels) {t : Text} (ht : ∀ c ∈ t, joinsName c = true) {i : Nat}
    (h : labels.lookup t = some i) : resolve base labels t = shown (base + i * instructionSize) := by
  induction labels with
  | nil => simp at h
  | cons l labels ih =>
    obtain ⟨n, j⟩ := l
    have hl' : Named labels := fun m hm => hl m (by simp [hm])
    rw [resolve_cons, replaceName_word (hl (n, j) (by simp)).ne_nil ht]
    by_cases heq : t = n
    · subst heq
      obtain rfl : j = i := by simpa using h
      obtain ⟨d, hwritten, -⟩ := writtenInt_shown (v := base + j * instructionSize) (by positivity)
      rw [if_pos rfl, resolve_writtenInt hl' hwritten]
    · have hne : (t == n) = false := by simpa using heq
      rw [List.lookup_cons, hne] at h
      rw [if_neg heq]
      exact ih hl' h

/-! ### Operands -/

/-- An operand as the listing of a source spells it. -/
def respell (base : Int) (labels : List (Text × Nat)) (o : Text) : Text :=
  resolve base labels (renameRegisters false (lower (tightenCommas o)))

/-- Labels that are mistaken for no register, neither as they are nor with the other names of registers. -/
structure Apart (labels : List (Text × Nat)) : Prop where
  named : Named labels
  keyword : ∀ l ∈ labels, l.1 ∉ keywords
  kept : ∀ l ∈ labels, renameRegisters false l.1 = l.1

theorem respell_of_stopless {o : Text} (ho : Stopless o) :
    respell base labels o = resolve base labels (renameRegisters false (lower o)) := by
  rw [respell, tightenCommas_solid ho.solid]

theorem stopless_of_keyword {o : Text} (h : lower o ∈ keywords) : Stopless o := by
  apply piecewise_lower.stopless_of
  obtain ⟨-, hchars, -, -⟩ := keyword_spelling _ h
  exact fun c hc => isStop_of_isNameChar (hchars c hc)

theorem respell_keyword (hl : Named labels) (hno : ∀ l ∈ labels, l.1 ∉ keywords) {o : Text} (h : lower o ∈ keywords) :
    respell base labels o = lower o := by
  obtain ⟨-, hchars, hkept, -⟩ := keyword_spelling _ h
  rw [respell_of_stopless (stopless_of_keyword h), hkept]
  refine resolve_of_no_label hl (fun c hc => joinsName_of_isNameChar (hchars c hc)) ?_
  intro l hmem heq
  exact hno l hmem (heq ▸ h)

theorem notMem_of_magnitude {t : Text} {base : Nat} {digits : List Nat} (h : Magnitude t base digits) : 'r' ∉ t := by
  cases h with
  | hex ne digits =>
    intro hc
    rcases List.mem_cons.1 hc with h0 | hc
    · exact absurd h0 (by decide)
    · rcases List.mem_cons.1 hc with h0 | hc
      · exact absurd h0 (by decide)
      · exact absurd (digits _ hc) (by decide)
  | decimal ne digits => exact fun hc => absurd (digits _ hc) (by decide)

theorem notMem_of_writtenInt {t : Text} {d : Digits} (h : WrittenInt t d) : 'r' ∉ t := by
  obtain ⟨front, digits, hfront, rfl, hdigits, -⟩ := h.shape
  have hr : ∀ f ∈ [[], ['#'], ['-'], ['#', '-']], 'r' ∉ f := by decide
  intro hc
  rcases List.mem_append.1 hc with hc | hc
  · exact hr front hfront hc
  · exact notMem_of_magnitude hdigits hc

theorem respell_writtenInt (hl : Named labels) {o : Text} {d : Digits} (h : WrittenInt o d) :
    WrittenInt (respell base labels o) d := by
  rw [respell_of_stopless h.stopless.2, renameRegisters_of_notMem (notMem_of_writtenInt h.lower),
    resolve_writtenInt hl h.lower]
  exact h.lower

theorem labelName_of_isName {t : Text} (h : isName t = true) : LabelName t := by
  cases t with
  | nil => simp [isName] at h
  | cons c rest =>
    simp only [isName, Bool.and_eq_true, List.all_eq_true] at h
    refine ⟨⟨c, rest, rfl, h.1⟩, fun d hd => ?_⟩
    rcases List.mem_cons.1 hd with rfl | hd
    · exact isNameChar_of_isNameStart h.1
    · exact h.2 d hd

theorem joinsName_of_mem_rename {name : Text} (h : LabelName name) {c : Char}
    (hc : c ∈ renameRegisters false (lower name)) : joinsName c = true := by
  rcases mem_renameRegisters hc with rfl | hc
  · decide
  · exact joinsName_of_isNameChar (h.lower.chars c hc)

/-- A name is replaced by the address of the label that it is once its registers have their other names. -/
theorem respell_label (hb : 0 ≤ base) (hl : Named labels) {o : Text} (ho : isName o = true) {i : Nat}
    (h : labels.lookup (renameRegisters false (lower o)) = some i) :
    respell base labels o = shown (base + i * instructionSize) := by
  have hname := labelName_of_isName ho
  rw [respell_of_stopless hname.stopless]
  exact resolve_label hb hl (fun _ hc => joinsName_of_mem_rename hname hc) h

theorem piecewise_respelling (hb : 0 ≤ base) (hl : Named labels) :
    Piecewise fun t => resolve base labels (renameRegisters false (lower t)) :=
  (piecewise_resolve hb hl).comp piecewise_rename_lower

theorem respell_memory (hb : 0 ≤ base) (ha : Apart labels) {parts : List Text} {r : Reg} {d : Option Digits}
    (h : MemoryParts parts r d) :
    MemoryParts (parts.map fun p => resolve base labels (renameRegisters false (lower p))) r d := by
  have hbase : ∀ {b : Text}, registerNamed? (lower b) = some r →
      registerNamed? (lower (resolve base labels (renameRegisters false (lower b)))) = some r := by
    intro b hr
    have hk := mem_keywords_of_registerNamed? hr
    rw [← respell_of_stopless (stopless_of_keyword hk), respell_keyword ha.named ha.keyword hk, lower_of_keyword hk]
    exact hr
  cases h with
  | base h => exact .base (hbase h)
  | @offset b o _ _ h ho =>
    refine .offset (hbase h) ?_
    rw [immediateDigits?_eq_some_iff] at ho ⊢
    have := (piecewise_respelling hb ha.named).trim o
    rw [← this, ← respell_of_stopless ho.stopless.2]
    exact respell_writtenInt ha.named ho

end Source

/-- The kind `k'` does in a machine without labels what `k` does with the labels of a listing. -/
inductive Stands (l : Listing) : OperandKind → OperandKind → Prop
  | reg (r : Reg) : Stands l (.reg r) (.reg r)
  | zero : Stands l .zero .zero
  | imm (v : Int) : Stands l (.imm v) (.imm v)
  | mem (r : Reg) (v : Int) : Stands l (.mem r v) (.mem r v)
  | label {name : Text} {address : Int} (h : l.labelAddress? name = some address) (hw : Word.wrap address = address) :
    Stands l (.label name) (.imm address)
  | unknown {name : Text} (h : l.labelAddress? name = none) (k : OperandKind) : Stands l (.label name) k
  | unsupported (k : OperandKind) : Stands l .unsupported k

theorem lookup_map {α β : Type} (f : α → β) (name : Text) (l : List (Text × α)) :
    (l.map fun x => (x.1, f x.2)).lookup name = (l.lookup name).map f := by
  induction l with
  | nil => rfl
  | cons x l ih =>
    rw [List.map_cons, List.lookup_cons, List.lookup_cons, ih]
    split <;> rfl

section

open Source

variable {l : Listing} {base : Int} {labels : List (Text × Nat)} (hb : 0 ≤ base) (ha : Apart labels)
  (hlabels : l.labels = labels.map fun x => (x.1, (x.2 : Int))) (hstart : l.codeStart = some base)

include hlabels hstart in
theorem labelAddress?_eq (name : Text) :
    l.labelAddress? name = (labels.lookup (lower name)).map fun i => base + i * instructionSize := by
  rw [Listing.labelAddress?, hlabels, hstart, lookup_map]
  cases labels.lookup (lower name) <;> rfl

theorem Source.LabelName.lower_lower {name : Text} (h : LabelName name) :
    Unicode.lower (Unicode.lower name) = Unicode.lower name := by
  have hascii : ∀ n < 128, (Char.ofNat n).toLower.toLower = (Char.ofNat n).toLower := by decide +kernel
  rw [h.lower.lower_eq, h.lower_eq, List.map_map]
  refine List.map_congr_left fun c hc => ?_
  exact of_ascii (P := fun c => c.toLower.toLower = c.toLower) hascii (ascii_of_isNameChar (h.chars c hc))

theorem respell_brackets (hb : 0 ≤ base) (hl : Named labels) (inside : Text) :
    respell base labels ('[' :: (inside ++ [']'])) =
      '[' :: (resolve base labels (renameRegisters false (lower (tightenCommas inside))) ++ [']']) := by
  have hp := piecewise_respelling hb hl
  have hclose := tightenCommas_append_last (show isBlank ']' = false by decide) (by decide) inside
  rw [respell, tightenCommas_cons_of_ne (by decide), hclose]
  have h1 := hp.cons_stop (show isStop '[' = true by decide) (tightenCommas inside ++ [']'])
  have h2 := hp.stop (tightenCommas inside) [] (show isStop ']' = true by decide)
  have hnil : resolve base labels (renameRegisters false (lower [])) = [] := hp.nil
  rw [h1, h2, hnil]

/-- The name of a register is read as before. -/
theorem read_respell_keyword (hl : Named labels) (hno : ∀ l ∈ labels, l.1 ∉ keywords) {o : Text}
    (h : lower o ∈ keywords) : OperandKind.read (respell base labels o) = OperandKind.read o := by
  rw [respell_keyword hl hno h]
  cases hr : registerNamed? (lower o) with
  | some r => simp [OperandKind.read, lower_of_keyword h, hr]
  | none =>
    have hz : lower o ∈ zeroNames := by
      refine (List.mem_append.1 h).resolve_left fun hr' => ?_
      obtain ⟨r, hsome⟩ := exists_registerNamed? hr'
      simp [hr] at hsome
    simp [OperandKind.read, lower_of_keyword h, hr, hz]

theorem read_respell_writtenInt (hl : Named labels) {o : Text} {d : Digits} (h : WrittenInt o d) :
    OperandKind.read (respell base labels o) = d.value.map .imm :=
  read_writtenInt (respell_writtenInt hl h)

/-- The address that stands for a label can be read, however long it is. -/
theorem read_shown {v : Int} (h : 0 ≤ v) : OperandKind.read (shown v) = .ok (.imm v) := by
  obtain ⟨d, hwritten, hvalue⟩ := writtenInt_shown h
  rw [read_writtenInt hwritten, hvalue]
  rfl

theorem read_respell_label (hb : 0 ≤ base) (hl : Named labels) {o : Text} (ho : isName o = true) {i : Nat}
    (h : labels.lookup (renameRegisters false (lower o)) = some i) :
    OperandKind.read (respell base labels o) = .ok (.imm (base + i * instructionSize)) := by
  rw [respell_label hb hl ho h]
  exact read_shown (by positivity)

theorem head_of_rename {name : Text} (h : LabelName name) :
    ∃ c rest, renameRegisters false name = c :: rest ∧ isNameStart c = true := by
  obtain ⟨c, rest, rfl, hc⟩ := h.start
  rw [renameRegisters]
  refine ⟨_, _, rfl, ?_⟩
  split_ifs
  · decide
  · exact hc

/-- A name that is no label is still spelled as a name. -/
theorem exists_read_of_no_label (hl : Named labels) {o : Text} (ho : isName o = true)
    (h : labels.lookup (renameRegisters false (lower o)) = none) :
    ∃ k, OperandKind.read (respell base labels o) = .ok k ∧ ∀ v, k ≠ .imm v := by
  have hlabel := labelName_of_isName ho
  have hstopless : Stopless (renameRegisters false (lower o)) := piecewise_renameRegisters.stopless hlabel.lower.stopless
  have hrespell : respell base labels o = renameRegisters false (lower o) := by
    rw [respell_of_stopless hlabel.stopless]
    refine resolve_of_no_label hl (fun _ hc => joinsName_of_mem_rename hlabel hc) fun l hmem heq => ?_
    have := List.lookup_eq_none_iff.1 h l hmem
    simp [heq] at this
  obtain ⟨c, rest, hrename, hstart⟩ := head_of_rename hlabel.lower
  rw [hrespell, hrename]
  rw [hrename] at hstopless
  obtain ⟨k, hk⟩ := exists_read_of_head hstopless hstart
  refine ⟨k, hk, ?_⟩
  -- no integer starts as a name does
  rintro v rfl
  cases readAs hk with
  | imm hd _ =>
    rw [immediateDigits?_eq_some_iff, trim_of_trimmed hstopless.solid.trimmed] at hd
    obtain ⟨d, rest', heq, hno⟩ := hd.head
    obtain ⟨rfl, -⟩ := List.cons.inj heq
    simp [hstart] at hno

include hb ha hlabels hstart

/-- Spelling an operand anew keeps what it stands for. Only an operand that nothing can be done with may then be one
that cannot be read. -/
theorem stands_respell (hbound : ∀ x ∈ labels, Word.wrap (base + x.2 * instructionSize) = base + x.2 * instructionSize)
    {o : Text} (ho : Trimmed o) {k : OperandKind} (hk : OperandKind.read o = .ok k) :
    k = .unsupported ∨ ∃ k', OperandKind.read (respell base labels o) = .ok k' ∧ Stands l k k' := by
  cases readAs hk with
  | @reg r hr =>
    refine .inr ⟨.reg r, ?_, .reg r⟩
    rw [read_respell_keyword ha.named ha.keyword (mem_keywords_of_registerNamed? hr), hk]
  | zero hr hz =>
    refine .inr ⟨.zero, ?_, .zero⟩
    rw [read_respell_keyword ha.named ha.keyword (List.mem_append_right _ hz), hk]
  | @mem inside r d v hraw hparts hv =>
    have hparts' : MemoryParts ((splitOn ',' (resolve base labels (renameRegisters false (lower (tightenCommas inside))))).map trim) r d := by
      have hsplit := trimmed_parts_piecewise (piecewise_respelling hb ha.named) (tightenCommas inside)
      rw [hsplit, trimmed_parts_tightenCommas]
      exact respell_memory hb ha hparts
    refine .inr ⟨.mem r v, ?_, .mem r v⟩
    rw [hraw, respell_brackets hb ha.named, read_memory hparts', hv]
    rfl
  | @imm d v hd hv =>
    rw [immediateDigits?_eq_some_iff, trim_of_trimmed ho] at hd
    refine .inr ⟨.imm v, ?_, .imm v⟩
    rw [read_respell_writtenInt ha.named hd, hv]
    rfl
  | label hn =>
    have hname := labelName_of_isName hn
    have haddress := labelAddress?_eq hlabels hstart (lower o)
    rw [hname.lower_lower] at haddress
    cases hi : labels.lookup (lower o) with
    | none =>
      have hunknown : l.labelAddress? (lower o) = none := by rw [haddress, hi]; rfl
      cases hrename : labels.lookup (renameRegisters false (lower o)) with
      | none =>
        have hread : ∃ k, OperandKind.read (respell base labels o) = .ok k ∧ ∀ v, k ≠ .imm v :=
          exists_read_of_no_label ha.named hn hrename
        obtain ⟨k', hk', -⟩ := hread
        exact .inr ⟨k', hk', .unknown hunknown k'⟩
      | some i => exact .inr ⟨_, read_respell_label hb ha.named hn hrename, .unknown hunknown _⟩
    | some i =>
      rw [hi] at haddress
      obtain ⟨l₁, l₂, heq, -⟩ := List.lookup_eq_some_iff.1 hi
      have hkept : labels.lookup (renameRegisters false (lower o)) = some i := by
        rw [ha.kept (lower o, i) (by simp [heq]), hi]
      exact .inr ⟨_, read_respell_label hb ha.named hn hkept, .label haddress (hbound (lower o, i) (by simp [heq]))⟩
  | unsupported => exact .inl rfl

end

end Stepper.Asm
