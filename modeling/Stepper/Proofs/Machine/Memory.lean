import Mathlib.Algebra.Order.Ring.Int
import Mathlib.Tactic.Positivity
import Mathlib.Tactic.Ring
import Stepper.Machine.Cpu

/-! The stack as one memory. The processor reads and writes it by byte addresses and the session by whole words
from the bottom, and both go to the same bytes: what one of them writes the other one reads. -/

namespace Stepper

/-! ### Bytes of a value -/

theorem length_bytesOfValue (size : Nat) (v : Int) : (bytesOfValue size v).length = size := by
  induction size generalizing v with
  | zero => rfl
  | succ size ih => simp [bytesOfValue, ih]

/-- The lowest byte of a remainder and what is left of it. -/
theorem emod_byte_mul (v : Int) {m : Int} (hm : 0 < m) : v % (256 * m) = v % 256 + 256 * (v / 256 % m) := by
  have hlow : v % 256 + 256 * (v / 256) = v := Int.emod_add_mul_ediv v 256
  have hhigh : v / 256 % m + m * (v / 256 / m) = v / 256 := Int.emod_add_mul_ediv (v / 256) m
  refine ((Int.ediv_emod_unique (q := v / 256 / m) (by omega)).2 ⟨?_, ?_, ?_⟩).2
  · calc v % 256 + 256 * (v / 256 % m) + 256 * m * (v / 256 / m)
      _ = v % 256 + 256 * (v / 256 % m + m * (v / 256 / m)) := by ring
      _ = v := by rw [hhigh, hlow]
  · have := Int.emod_nonneg (v / 256) hm.ne'
    omega
  · have := Int.emod_lt_of_pos (v / 256) hm
    omega

/-- The value of the bytes is the remainder, also for a negative value. -/
theorem valueOfBytes_bytesOfValue (size : Nat) (v : Int) :
    (valueOfBytes (bytesOfValue size v) : Int) = v % 256 ^ size := by
  induction size generalizing v with
  | zero => simp [bytesOfValue, valueOfBytes]
  | succ size ih =>
    have hbyte : ((UInt8.ofNat (v % 256).toNat).toNat : Int) = v % 256 := by
      rw [UInt8.toNat_ofNat']
      omega
    rw [bytesOfValue, valueOfBytes, pow_succ', emod_byte_mul v (by positivity), ← ih]
    push_cast
    rw [hbyte]

theorem bytesOfValue_emod (size : Nat) (v : Int) : bytesOfValue size (v % 256 ^ size) = bytesOfValue size v := by
  induction size generalizing v with
  | zero => rfl
  | succ size ih =>
    have hsplit := emod_byte_mul v (m := 256 ^ size) (by positivity)
    have hlow : v % (256 * 256 ^ size) % 256 = v % 256 := by omega
    have hrest : v % (256 * 256 ^ size) / 256 = v / 256 % 256 ^ size := by omega
    rw [bytesOfValue, bytesOfValue, pow_succ', hlow, hrest, ih]

theorem Word.limit_eq : (Word.limit : Int) = 256 ^ Word.bytes := by decide

/-- A value is stored as the word it wraps to. -/
theorem bytesOfValue_wrap (v : Int) : bytesOfValue Word.bytes (Word.wrap v) = bytesOfValue Word.bytes v := by
  rw [Word.wrap, Word.limit_eq, bytesOfValue_emod]

/-! ### Reading after writing -/

section

variable {data : List UInt8} {offset : Nat} {bytes : List UInt8}

theorem length_writeBytes (h : offset + bytes.length ≤ data.length) :
    (writeBytes data offset bytes).length = data.length := by
  simp only [writeBytes, List.length_append, List.length_take, List.length_drop]
  omega

theorem getElem?_writeBytes_of_outside (h : offset + bytes.length ≤ data.length) {i : Nat}
    (hi : i < offset ∨ offset + bytes.length ≤ i) : (writeBytes data offset bytes)[i]? = data[i]? := by
  have hfront : (data.take offset).length = offset := List.length_take_of_le (by omega)
  rcases hi with hi | hi
  · rw [writeBytes, List.append_assoc, List.getElem?_append_left (by omega), List.getElem?_take_of_lt hi]
  · rw [writeBytes, List.getElem?_append_right (by rw [List.length_append]; omega), List.getElem?_drop,
      List.length_append, hfront]
    congr 1
    omega

variable (bytes) in
theorem readBytes_writeBytes_self (h : offset ≤ data.length) :
    readBytes (writeBytes data offset bytes) offset bytes.length = valueOfBytes bytes := by
  have hfront : (data.take offset).length = offset := List.length_take_of_le h
  have hdrop : (writeBytes data offset bytes).drop offset = bytes ++ data.drop (offset + bytes.length) := by
    rw [writeBytes, List.append_assoc]
    exact List.drop_left' hfront
  rw [readBytes, hdrop, List.take_left]

/-- A read depends on the bytes it covers alone. -/
theorem readBytes_congr {data' : List UInt8} {size : Nat}
    (h : ∀ i, offset ≤ i → i < offset + size → data[i]? = data'[i]?) :
    readBytes data offset size = readBytes data' offset size := by
  have heq : (data.drop offset).take size = (data'.drop offset).take size := by
    apply List.ext_getElem?
    intro i
    by_cases hi : i < size
    · rw [List.getElem?_take_of_lt hi, List.getElem?_take_of_lt hi, List.getElem?_drop, List.getElem?_drop]
      exact h _ (by omega) (by omega)
    · rw [List.getElem?_take_eq_none (by omega), List.getElem?_take_eq_none (by omega)]
  rw [readBytes, readBytes, heq]

theorem readBytes_writeBytes_apart (h : offset + bytes.length ≤ data.length) {offset' size : Nat}
    (hapart : offset' + size ≤ offset ∨ offset + bytes.length ≤ offset') :
    readBytes (writeBytes data offset bytes) offset' size = readBytes data offset' size :=
  readBytes_congr fun _ _ _ => getElem?_writeBytes_of_outside h (by omega)

end

/-! ### Addresses of bytes -/

namespace Cpu

/-- The bytes of the stack are those between its bounds. -/
def Filled (c : Cpu) : Prop :=
  (c.stack.length : Int) = c.stackTop - c.stackBottom

variable {c : Cpu} {a : Int}

theorem inStack_iff {size : Int} : c.inStack a size = true ↔ c.stackBottom ≤ a ∧ a + size ≤ c.stackTop := by
  simp [inStack]

theorem offset_le_of_inStack (hc : c.Filled) (ha : c.inStack a Word.bytes = true) :
    (a - c.stackBottom).toNat + Word.bytes ≤ c.stack.length := by
  obtain ⟨hbottom, htop⟩ := inStack_iff.1 ha
  unfold Filled at hc
  omega

variable (v : Int)

theorem write_bounds (c : Cpu) (a v : Int) (size : Nat) :
    (c.write a v size).stackBottom = c.stackBottom ∧ (c.write a v size).stackTop = c.stackTop :=
  ⟨rfl, rfl⟩

theorem read_write_self (hc : c.Filled) (ha : c.inStack a Word.bytes = true) :
    ((c.write a v Word.bytes).read a Word.bytes : Int) = Word.wrap v := by
  have hoffset := offset_le_of_inStack hc ha
  have hfits : (a - c.stackBottom).toNat ≤ c.stack.length := by omega
  have hread := readBytes_writeBytes_self (bytesOfValue Word.bytes v) hfits
  rw [length_bytesOfValue] at hread
  rw [read, write, hread, valueOfBytes_bytesOfValue, Word.wrap, Word.limit_eq]

theorem getElem?_write (hc : c.Filled) (ha : c.inStack a Word.bytes = true) {i : Nat}
    (hi : c.stackBottom + i < a ∨ a + Word.bytes ≤ c.stackBottom + i) :
    (c.write a v Word.bytes).stack[i]? = c.stack[i]? := by
  obtain ⟨hbottom, -⟩ := inStack_iff.1 ha
  have hoffset := offset_le_of_inStack hc ha
  exact getElem?_writeBytes_of_outside (by rwa [length_bytesOfValue]) (by rw [length_bytesOfValue]; omega)

theorem read_write_apart (hc : c.Filled) (ha : c.inStack a Word.bytes = true) {b : Int}
    (hb : c.inStack b Word.bytes = true) (hapart : (Word.bytes : Int) ≤ |a - b|) :
    (c.write a v Word.bytes).read b Word.bytes = c.read b Word.bytes := by
  obtain ⟨hbottom, -⟩ := inStack_iff.1 ha
  obtain ⟨hbottom', -⟩ := inStack_iff.1 hb
  have hoffset := offset_le_of_inStack hc ha
  refine readBytes_writeBytes_apart (by rwa [length_bytesOfValue]) ?_
  rw [length_bytesOfValue, (c.write_bounds a v Word.bytes).1]
  rcases le_abs.1 hapart with h | h
  · left; omega
  · right; omega

theorem length_write (hc : c.Filled) (ha : c.inStack a Word.bytes = true) :
    (c.write a v Word.bytes).stack.length = c.stack.length :=
  length_writeBytes (by rw [length_bytesOfValue]; exact offset_le_of_inStack hc ha)

end Cpu

/-! ### Words counted from the bottom -/

namespace StackRegion

variable {s : StackRegion} {x : Int} {i : Nat}

theorem wordCount_mul_le (s : StackRegion) :
    s.wordCount * Word.bytes ≤ s.data.length ∧ (0 < s.wordCount → s.bottom + s.wordCount * Word.bytes ≤ s.top) := by
  unfold wordCount Word.bytes
  constructor
  · omega
  · omega

/-- The word that an address lies in. -/
theorem indexOf_eq_ok_iff :
    s.indexOf x = .ok i ↔
      i < s.wordCount ∧ s.bottom + i * Word.bytes ≤ x ∧ x < s.bottom + i * Word.bytes + Word.bytes := by
  have htop := s.wordCount_mul_le.2
  unfold indexOf contains
  dsimp only
  generalize s.wordCount = n at htop ⊢
  unfold Word.bytes at htop ⊢
  split
  · next hin =>
    simp only [Bool.and_eq_true, decide_eq_true_eq] at hin
    simp only [Except.ok.injEq]
    omega
  · next hout =>
    simp only [Bool.and_eq_true, decide_eq_true_eq] at hout
    simp only [reduceCtorEq, false_iff]
    omega

/-- Only the addresses of whole words are found. -/
theorem indexOf_eq_error_iff :
    s.indexOf x = .error ⟨x, s.bottom, s.top⟩ ↔ x < s.bottom ∨ s.bottom + s.wordCount * Word.bytes ≤ x := by
  have htop := s.wordCount_mul_le.2
  unfold indexOf contains
  dsimp only
  generalize s.wordCount = n at htop ⊢
  unfold Word.bytes at htop ⊢
  split
  · next hin =>
    simp only [Bool.and_eq_true, decide_eq_true_eq] at hin
    simp only [reduceCtorEq, false_iff]
    omega
  · next hout =>
    simp only [Bool.and_eq_true, decide_eq_true_eq] at hout
    simp only [true_iff]
    omega

section

variable (v : Int) (hi : i < s.wordCount)

include hi

theorem offset_le_of_index : i * Word.bytes + (bytesOfValue Word.bytes (Word.wrap v)).length ≤ s.data.length := by
  have hlength := s.wordCount_mul_le.1
  rw [length_bytesOfValue]
  unfold Word.bytes at hlength ⊢
  omega

theorem length_putWord : (s.putWord i v).data.length = s.data.length :=
  length_writeBytes (offset_le_of_index v hi)

theorem wordCount_putWord : (s.putWord i v).wordCount = s.wordCount := by
  rw [wordCount, length_putWord v hi]
  rfl

theorem indexOf_putWord (x : Int) : (s.putWord i v).indexOf x = s.indexOf x := by
  rw [indexOf, indexOf, wordCount_putWord v hi]
  rfl

theorem wordAtIndex_putWord (j : Nat) :
    (s.putWord i v).wordAtIndex j = if j = i then (Word.wrap v).toNat else s.wordAtIndex j := by
  have hoffset := offset_le_of_index v hi
  rw [length_bytesOfValue] at hoffset
  split
  · next heq =>
    subst heq
    have hfits : j * Word.bytes ≤ s.data.length := by omega
    have hread := readBytes_writeBytes_self (bytesOfValue Word.bytes (Word.wrap v)) hfits
    have hvalue := valueOfBytes_bytesOfValue Word.bytes v
    rw [length_bytesOfValue] at hread
    rw [wordAtIndex, putWord, hread, bytesOfValue_wrap, Word.wrap, Word.limit_eq]
    omega
  · next hne =>
    refine readBytes_writeBytes_apart (offset_le_of_index v hi) ?_
    rw [length_bytesOfValue]
    unfold Word.bytes
    omega

theorem wordAt_putWord (y : Int) :
    (s.putWord i v).wordAt y =
      if s.addressOf i ≤ y ∧ y < s.addressOf i + Word.bytes then .ok (Word.wrap v).toNat else s.wordAt y := by
  have hword : (s.addressOf i ≤ y ∧ y < s.addressOf i + Word.bytes) ↔ s.indexOf y = .ok i := by
    rw [indexOf_eq_ok_iff, addressOf, and_iff_right hi]
  unfold wordAt
  rw [indexOf_putWord v hi, if_congr hword rfl rfl]
  cases s.indexOf y with
  | error e => rfl
  | ok j =>
    simp only [Except.ok.injEq, bind, Except.bind, pure, Except.pure, wordAtIndex_putWord v hi]
    split <;> rfl

theorem getElem?_putWord {j : Nat} (hj : j < i * Word.bytes ∨ i * Word.bytes + Word.bytes ≤ j) :
    (s.putWord i v).data[j]? = s.data[j]? :=
  getElem?_writeBytes_of_outside (offset_le_of_index v hi) (by rwa [length_bytesOfValue])

end

theorem writeWordAt_of_error {e : AddressOutOfRange} (h : s.indexOf x = .error e) (v : Int) :
    s.writeWordAt x v = .error e := by
  rw [writeWordAt, h]
  rfl

theorem writeWordAt_of_ok (h : s.indexOf x = .ok i) (v : Int) : s.writeWordAt x v = .ok (i, s.putWord i v) := by
  rw [writeWordAt, h]
  rfl

/-- A write is refused where no whole word is. -/
theorem writeWordAt_eq_error_iff (v : Int) :
    s.writeWordAt x v = .error ⟨x, s.bottom, s.top⟩ ↔ x < s.bottom ∨ s.bottom + s.wordCount * Word.bytes ≤ x := by
  rw [← indexOf_eq_error_iff]
  constructor
  · intro h
    cases hindex : s.indexOf x with
    | error e =>
      rw [writeWordAt_of_error hindex] at h
      exact congrArg Except.error (Except.error.inj h)
    | ok i => simp [writeWordAt_of_ok hindex] at h
  · exact fun h => writeWordAt_of_error h v

theorem exists_index (hbottom : s.bottom ≤ x) (h : x < s.bottom + s.wordCount * Word.bytes) : ∃ i, s.indexOf x = .ok i := by
  cases hindex : s.indexOf x with
  | ok i => exact ⟨i, rfl⟩
  | error e =>
    have herror : s.indexOf x = .error ⟨x, s.bottom, s.top⟩ := by
      unfold indexOf at hindex ⊢
      dsimp only at hindex ⊢
      split at hindex
      · simp at hindex
      · next hout => rw [if_neg hout]
    rcases indexOf_eq_error_iff.1 herror with h' | h'
    · omega
    · omega

end StackRegion

namespace Cpu

variable {c : Cpu}

theorem addressOf_region (c : Cpu) (i : Int) : c.region.addressOf i = c.stackBottom + i * Word.bytes := rfl

theorem wordCount_region (hc : c.Filled) : c.region.wordCount = c.stack.length / Word.bytes := by
  unfold Filled at hc
  rw [StackRegion.wordCount, region, ← hc, min_self, Int.toNat_natCast]

/-- A word counted from the bottom is read and written as the bytes at its address are. -/
theorem word_eq_read (hc : c.Filled) {i : Int} (h0 : 0 ≤ i) (hi : i < c.region.wordCount) (v : Int) :
    c.inStack (c.region.addressOf i) Word.bytes = true ∧
      c.region.word i = .ok (c.read (c.region.addressOf i) Word.bytes) ∧
      c.region.setWord i v = .ok (c.write (c.region.addressOf i) v Word.bytes).region := by
  obtain ⟨n, rfl⟩ := Int.eq_ofNat_of_zero_le h0
  have hcheck : c.region.checkIndex n = .ok n := by
    rw [StackRegion.checkIndex, if_pos ⟨h0, hi⟩, Int.toNat_natCast]
  have hoffset : (c.region.addressOf n - c.stackBottom).toNat = n * Word.bytes := by
    rw [addressOf_region]
    unfold Word.bytes
    omega
  refine ⟨?_, ?_, ?_⟩
  · rw [wordCount_region hc] at hi
    unfold Filled at hc
    rw [inStack_iff, addressOf_region]
    unfold Word.bytes at hi ⊢
    omega
  · rw [StackRegion.word, hcheck, read, hoffset]
    rfl
  · rw [StackRegion.setWord, hcheck, write, hoffset]
    simp only [bind, Except.bind, StackRegion.putWord, bytesOfValue_wrap]
    rfl

end Cpu

/-- The words of the session and the bytes of the processor are one memory, of whatever size. Words are read and
written as their bytes are; what is written at an address is read there again, as a word, and changes no byte
beside it; and an edit by address changes the one word that the address lies in, or is refused. -/
theorem stack_is_one_memory {c : Cpu} (hc : c.Filled) (v : Int) :
    (∀ i : Int, 0 ≤ i → i < c.region.wordCount →
      c.inStack (c.region.addressOf i) Word.bytes = true ∧
        c.region.word i = .ok (c.read (c.region.addressOf i) Word.bytes) ∧
        c.region.setWord i v = .ok (c.write (c.region.addressOf i) v Word.bytes).region) ∧
    (∀ a : Int, c.inStack a Word.bytes = true →
      ((c.write a v Word.bytes).read a Word.bytes : Int) = Word.wrap v ∧
        (∀ b : Int, c.inStack b Word.bytes = true → (Word.bytes : Int) ≤ |a - b| →
          (c.write a v Word.bytes).read b Word.bytes = c.read b Word.bytes) ∧
        (∀ i : Nat, c.stackBottom + i < a ∨ a + Word.bytes ≤ c.stackBottom + i →
          (c.write a v Word.bytes).stack[i]? = c.stack[i]?) ∧
        (c.write a v Word.bytes).stack.length = c.stack.length) ∧
    ∀ x : Int,
      (c.region.writeWordAt x v = .error ⟨x, c.stackBottom, c.stackTop⟩ ↔
        x < c.stackBottom ∨ c.stackBottom + c.region.wordCount * Word.bytes ≤ x) ∧
      (c.stackBottom ≤ x → x < c.stackBottom + c.region.wordCount * Word.bytes →
        ∃ i s, c.region.writeWordAt x v = .ok (i, s) ∧
          (c.region.addressOf i ≤ x ∧ x < c.region.addressOf i + Word.bytes) ∧
          s.bottom = c.stackBottom ∧ s.top = c.stackTop ∧ s.data.length = c.stack.length ∧
          (∀ j : Nat, j < i * Word.bytes ∨ i * Word.bytes + Word.bytes ≤ j → s.data[j]? = c.stack[j]?) ∧
          ∀ y, s.wordAt y =
            if c.region.addressOf i ≤ y ∧ y < c.region.addressOf i + Word.bytes then .ok (Word.wrap v).toNat
            else c.region.wordAt y) := by
  refine ⟨fun i h0 hi => Cpu.word_eq_read hc h0 hi v, fun a ha => ⟨?_, ?_, ?_, ?_⟩, fun x => ⟨?_, ?_⟩⟩
  · exact Cpu.read_write_self v hc ha
  · exact fun b hb hapart => Cpu.read_write_apart v hc ha hb hapart
  · exact fun i hi => Cpu.getElem?_write v hc ha hi
  · exact Cpu.length_write v hc ha
  · exact StackRegion.writeWordAt_eq_error_iff v
  · intro hbottom htop
    obtain ⟨i, hindex⟩ := StackRegion.exists_index (s := c.region) hbottom htop
    obtain ⟨hi, hword⟩ := StackRegion.indexOf_eq_ok_iff.1 hindex
    exact ⟨i, c.region.putWord i v, StackRegion.writeWordAt_of_ok hindex v, hword, rfl, rfl,
      StackRegion.length_putWord v hi, fun j hj => StackRegion.getElem?_putWord v hi hj,
      StackRegion.wordAt_putWord v hi⟩

/-- A stack of two words and four bytes more, at an odd address. -/
def oddStack : Cpu :=
  { Cpu.initial with stack := List.replicate 20 0, stackBottom := 0x1001, stackTop := 0x1015 }

theorem odd_stack_is_one_memory :
    oddStack.Filled ∧ ((oddStack.write 0x1003 (-2) Word.bytes).read 0x1003 Word.bytes : Int) = 0xfffffffffffffffe ∧
      (oddStack.write 0x1003 (-2) Word.bytes).read 0x100b Word.bytes = oddStack.read 0x100b Word.bytes ∧
      oddStack.region.setWord 1 (-2) = .ok (oddStack.write 0x1009 (-2) Word.bytes).region ∧
      oddStack.region.writeWordAt 0x1011 (-2) = .error ⟨0x1011, 0x1001, 0x1015⟩ := by
  have hfilled : oddStack.Filled := by
    unfold Cpu.Filled
    decide
  obtain ⟨hwords, hbytes, haddresses⟩ := stack_is_one_memory hfilled (-2)
  obtain ⟨hsame, hother, -, -⟩ := hbytes 0x1003 (by decide)
  exact ⟨hfilled, hsame, hother 0x100b (by decide) (by decide), (hwords 1 (by decide) (by decide)).2.2,
    (haddresses 0x1011).1.2 (by decide)⟩

end Stepper
